/-!
# Blocks and words

What the two digests share: the filling that brings a message to a multiple
of sixty-four octets, blocks, words in either order of octets, and rotation.
-/

namespace SessionGateway.Digest

/-- Rotates a word to the left by less than its width. -/
def rotateLeft (word count : UInt32) : UInt32 :=
  (word <<< count) ||| (word >>> (32 - count))

/-- The marker and the zeros behind a message, leaving eight octets of its last block free. -/
def filling (length : Nat) : List UInt8 :=
  0x80 :: List.replicate ((119 - length % 64) % 64) 0

/-- The message in blocks of sixty-four octets. -/
def blocks (message : List UInt8) : List (List UInt8) :=
  match message with
  | [] => []
  | octet :: rest => (octet :: rest).take 64 :: blocks ((octet :: rest).drop 64)
termination_by message.length
decreasing_by
  simp only [List.length_drop, List.length_cons]
  omega

/-- The low `count` octets of a number, the lowest first. -/
def octetsOfWord (value : Nat) : (count : Nat) → List UInt8
  | 0 => []
  | count + 1 => UInt8.ofNat (value % 256) :: octetsOfWord (value / 256) count

@[simp]
theorem octetsOfWord_length (value count : Nat) : (octetsOfWord value count).length = count := by
  induction count generalizing value with
  | zero => rfl
  | succ count hypothesis => simp [octetsOfWord, hypothesis]

/-- The words of a block, the lowest octet first. -/
def littleEndianWords : List UInt8 → List UInt32
  | a :: b :: c :: d :: rest =>
      (a.toUInt32 ||| (b.toUInt32 <<< 8) ||| (c.toUInt32 <<< 16) ||| (d.toUInt32 <<< 24)) ::
        littleEndianWords rest
  | _ => []

/-- The words of a block, the highest octet first. -/
def bigEndianWords : List UInt8 → List UInt32
  | a :: b :: c :: d :: rest =>
      (d.toUInt32 ||| (c.toUInt32 <<< 8) ||| (b.toUInt32 <<< 16) ||| (a.toUInt32 <<< 24)) ::
        bigEndianWords rest
  | _ => []

end SessionGateway.Digest
