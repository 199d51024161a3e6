import SessionGateway.Text.Ascii

/-!
# IPv6 hosts of a URL

Reading and writing of the text between square brackets.  An address is a
list of eight pieces of sixteen bits.  It is written in lower case, and the
first longest run of at least two zero pieces is written as `::`.
-/

namespace SessionGateway.Url.Ipv6

/-- Reads the last two pieces of an address from a dotted tail. -/
def dotted? (text : List Char) : Option (Nat × Nat) := do
  let octet? (digits : List Char) : Option Nat :=
    if digits.length > 1 ∧ digits.head? = some '0' then
      none
    else
      (if digits.all Char.isDigit then Text.decimal? digits else none).filter (· < 256)
  match ← (text.splitOn '.').mapM octet? with
  | [first, second, third, fourth] => some (256 * first + second, 256 * third + fourth)
  | _ => none

/--
Reads pieces up to the end of the text.  `pieces` are those already read, the
latest first; `gap` is the number of pieces in front of the place where `::`
leaves out zeros.
-/
def pieces? (text : List Char) (pieces : List Nat) (gap : Option Nat) :
    Option (List Nat × Option Nat) :=
  match text with
  | [] => some (pieces.reverse, gap)
  | ':' :: rest =>
      if pieces.length = 8 ∨ gap.isSome then
        none
      else
        pieces? rest (0 :: pieces) (some (pieces.length + 1))
  | character :: rest =>
      if pieces.length = 8 then
        none
      else
        let text := character :: rest
        let digits := (text.take 4).takeWhile fun digit => (Text.hexValue? digit).isSome
        match Text.numeral? 16 (Text.lower digits) with
        | none => none
        | some value =>
            match _dropped : rest.drop (digits.length - 1) with
            | [] => some ((value :: pieces).reverse, gap)
            | ':' :: next :: more => pieces? (next :: more) (value :: pieces) gap
            | '.' :: _ =>
                if pieces.length ≤ 6 then
                  (dotted? text).map fun (high, low) => ((low :: high :: pieces).reverse, gap)
                else
                  none
            | _ => none
termination_by text.length
decreasing_by
  · simp
  · have bound := List.length_drop (i := digits.length - 1) (l := rest)
    rw [_dropped] at bound
    simp only [List.length_cons] at bound ⊢
    omega

/-- Reads an address. -/
def parse? (text : List Char) : Option (List Nat) := do
  let (pieces, gap) ← match text with
    | ':' :: ':' :: rest => pieces? rest [0] (some 1)
    | ':' :: _ => none
    | _ => pieces? text [] none
  match gap with
  | some place =>
      some (pieces.take place ++ List.replicate (8 - pieces.length) 0 ++ pieces.drop place)
  | none => if pieces.length = 8 then some pieces else none

/-- Place and length of the first longest run of zero pieces. -/
def longestRun (pieces : List Nat) : Nat × Nat :=
  (List.range pieces.length).foldl
    (fun best place =>
      let length := ((pieces.drop place).takeWhile (· == 0)).length
      if best.2 < length then (place, length) else best)
    (0, 0)

/-- The pieces in lower-case hexadecimal, separated by colons. -/
def joined (pieces : List Nat) : List Char :=
  [':'].intercalate (pieces.map (Nat.toDigits 16))

/-- The shortened writing of an address. -/
def text (pieces : List Nat) : List Char :=
  let (place, length) := longestRun pieces
  if 2 ≤ length then
    joined (pieces.take place) ++ [':', ':'] ++ joined (pieces.drop (place + length))
  else
    joined pieces

end SessionGateway.Url.Ipv6
