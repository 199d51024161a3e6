import SessionGateway.Text.Ascii

/-!
# Sets of characters

Sets of characters given by ranges of code points.  A set is written as lines
of words; a word is one code point or a range such as `5D0-5EA`, in
hexadecimal.  A word of any other form adds nothing.
-/

namespace SessionGateway.Text

/-- A set of characters. -/
structure CodeSet where
  /-- The first and the last code point of each range. -/
  ranges : List (Nat × Nat)
  deriving DecidableEq, Repr

namespace CodeSet

/-- The range of a word. -/
def range? (word : String) : Option (Nat × Nat) :=
  match word.toList.span (· ≠ '-') with
  | (first, []) => (numeral? 16 first).map fun code => (code, code)
  | (first, _ :: last) => do pure (← numeral? 16 first, ← numeral? 16 last)

/-- The set of the ranges in some lines. -/
def ofLines (lines : List String) : CodeSet :=
  ⟨lines.flatMap fun line => (line.splitOn " ").filterMap range?⟩

/-- Whether a character is in a set. -/
def contains (set : CodeSet) (character : Char) : Bool :=
  set.ranges.any fun (first, last) => first ≤ character.toNat && character.toNat ≤ last

end CodeSet

end SessionGateway.Text
