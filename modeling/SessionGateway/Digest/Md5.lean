import SessionGateway.Digest.Block

/-!
# MD5

The message digest of RFC 1321, used for entity tags only.  `Md5.digest`
always yields sixteen octets.
-/

namespace SessionGateway.Digest.Md5

/-- The four words of the running digest. -/
structure State where
  a : UInt32
  b : UInt32
  c : UInt32
  d : UInt32

/-- The digest of nothing. -/
def initial : State :=
  { a := 0x67452301, b := 0xefcdab89, c := 0x98badcfe, d := 0x10325476 }

/-- The rotations of the four rounds, each used in turn. -/
def rotations : Array UInt32 :=
  #[7, 12, 17, 22, 5, 9, 14, 20, 4, 11, 16, 23, 6, 10, 15, 21]

/-- The additive constants, the leading bits of the sines of the step numbers. -/
def constants : Array UInt32 :=
  #[
    0xd76aa478, 0xe8c7b756, 0x242070db, 0xc1bdceee,
    0xf57c0faf, 0x4787c62a, 0xa8304613, 0xfd469501,
    0x698098d8, 0x8b44f7af, 0xffff5bb1, 0x895cd7be,
    0x6b901122, 0xfd987193, 0xa679438e, 0x49b40821,
    0xf61e2562, 0xc040b340, 0x265e5a51, 0xe9b6c7aa,
    0xd62f105d, 0x02441453, 0xd8a1e681, 0xe7d3fbc8,
    0x21e1cde6, 0xc33707d6, 0xf4d50d87, 0x455a14ed,
    0xa9e3e905, 0xfcefa3f8, 0x676f02d9, 0x8d2a4c8a,
    0xfffa3942, 0x8771f681, 0x6d9d6122, 0xfde5380c,
    0xa4beea44, 0x4bdecfa9, 0xf6bb4b60, 0xbebfbc70,
    0x289b7ec6, 0xeaa127fa, 0xd4ef3085, 0x04881d05,
    0xd9d4d039, 0xe6db99e5, 0x1fa27cf8, 0xc4ac5665,
    0xf4292244, 0x432aff97, 0xab9423a7, 0xfc93a039,
    0x655b59c3, 0x8f0ccc92, 0xffeff47d, 0x85845dd1,
    0x6fa87e4f, 0xfe2ce6e0, 0xa3014314, 0x4e0811a1,
    0xf7537e82, 0xbd3af235, 0x2ad7d2bb, 0xeb86d391
  ]

/-- Mixing function and word number of one step. -/
def mix (state : State) (step : Nat) : UInt32 × Nat :=
  match step / 16 with
  | 0 => ((state.b &&& state.c) ||| (~~~state.b &&& state.d), step)
  | 1 => ((state.d &&& state.b) ||| (~~~state.d &&& state.c), (5 * step + 1) % 16)
  | 2 => (state.b ^^^ state.c ^^^ state.d, (3 * step + 5) % 16)
  | _ => (state.c ^^^ (state.b ||| ~~~state.d), 7 * step % 16)

/-- One of the sixty-four steps of a block. -/
def step (words : Array UInt32) (state : State) (number : Nat) : State :=
  let (mixed, word) := mix state number
  let sum := state.a + mixed + constants.getD number 0 + words.getD word 0
  let turned := rotateLeft sum (rotations.getD (4 * (number / 16) + number % 4) 0)
  { a := state.d, b := state.b + turned, c := state.b, d := state.c }

/-- Mixes one block into the running digest. -/
def absorb (state : State) (block : List UInt8) : State :=
  let words := (littleEndianWords block).toArray
  let mixed := (List.range 64).foldl (step words) state
  { a := state.a + mixed.a
    b := state.b + mixed.b
    c := state.c + mixed.c
    d := state.d + mixed.d }

/-- The digest of a message. -/
def digest (message : List UInt8) : List UInt8 :=
  let length := (octetsOfWord (8 * message.length) 8)
  let state := (blocks (message ++ filling message.length ++ length)).foldl absorb initial
  [state.a, state.b, state.c, state.d].flatMap fun word => octetsOfWord word.toNat 4

theorem digest_length (message : List UInt8) : (digest message).length = 16 := by
  simp [digest]

end SessionGateway.Digest.Md5
