import SessionGateway.Digest.Block

/-!
# SHA-1

The secure hash of RFC 3174, used for the handshake of a WebSocket only.
`Sha1.digest` always yields twenty octets.
-/

namespace SessionGateway.Digest.Sha1

/-- The five words of the running digest. -/
structure State where
  a : UInt32
  b : UInt32
  c : UInt32
  d : UInt32
  e : UInt32

/-- The digest of nothing. -/
def initial : State :=
  { a := 0x67452301, b := 0xefcdab89, c := 0x98badcfe, d := 0x10325476, e := 0xc3d2e1f0 }

/-- Extends a schedule, its latest word first, by one word. -/
def extend (words : List UInt32) : List UInt32 :=
  let word (place : Nat) : UInt32 := words.getD place 0
  rotateLeft (word 2 ^^^ word 7 ^^^ word 13 ^^^ word 15) 1 :: words

/-- The eighty words of the schedule of a block. -/
def schedule (block : List UInt8) : List UInt32 :=
  ((List.range 64).foldl (fun words _ => extend words) (bigEndianWords block).reverse).reverse

/-- Mixing function and additive constant of one step. -/
def mix (state : State) (step : Nat) : UInt32 × UInt32 :=
  match step / 20 with
  | 0 => ((state.b &&& state.c) ||| (~~~state.b &&& state.d), 0x5a827999)
  | 1 => (state.b ^^^ state.c ^^^ state.d, 0x6ed9eba1)
  | 2 => ((state.b &&& state.c) ||| (state.b &&& state.d) ||| (state.c &&& state.d), 0x8f1bbcdc)
  | _ => (state.b ^^^ state.c ^^^ state.d, 0xca62c1d6)

/-- One of the eighty steps of a block. -/
def step (state : State) (entry : UInt32 × Nat) : State :=
  let (mixed, constant) := mix state entry.2
  { a := rotateLeft state.a 5 + mixed + state.e + constant + entry.1
    b := state.a
    c := rotateLeft state.b 30
    d := state.c
    e := state.d }

/-- Mixes one block into the running digest. -/
def absorb (state : State) (block : List UInt8) : State :=
  let mixed := (schedule block).zipIdx.foldl step state
  { a := state.a + mixed.a
    b := state.b + mixed.b
    c := state.c + mixed.c
    d := state.d + mixed.d
    e := state.e + mixed.e }

/-- The digest of a message. -/
def digest (message : List UInt8) : List UInt8 :=
  let length := (octetsOfWord (8 * message.length) 8).reverse
  let state := (blocks (message ++ filling message.length ++ length)).foldl absorb initial
  [state.a, state.b, state.c, state.d, state.e].flatMap fun word =>
    (octetsOfWord word.toNat 4).reverse

end SessionGateway.Digest.Sha1
