/-!
# ASCII text

Case folding, digits and numerals of the ASCII range.  Nothing here touches a
character outside it: `lower` leaves `É` alone, and a full-width digit is no
digit.
-/

namespace SessionGateway.Text

/-- The text with `A`–`Z` in lower case. -/
def lower (text : List Char) : List Char :=
  text.map Char.toLower

/-- Equality up to the case of ASCII letters. -/
def sameIgnoringCase (left right : List Char) : Bool :=
  lower left == lower right

/-- Whether a text occurs in another one. -/
def occursIn (part : List Char) : List Char → Bool
  | [] => part.isEmpty
  | character :: rest => part.isPrefixOf (character :: rest) || occursIn part rest

/-- The value of a hexadecimal digit of either case. -/
def hexValue? (character : Char) : Option Nat :=
  if '0' ≤ character ∧ character ≤ '9' then
    some (character.toNat - 48)
  else if 'a' ≤ character ∧ character ≤ 'f' then
    some (character.toNat - 87)
  else if 'A' ≤ character ∧ character ≤ 'F' then
    some (character.toNat - 55)
  else
    none

/-- The lower-case hexadecimal digit of a value below sixteen. -/
def hexDigit (value : Nat) : Char :=
  Nat.digitChar value

/-- Exactly `width` lower-case hexadecimal digits of a value. -/
def hexDigits : (width : Nat) → (value : Nat) → List Char
  | 0, _ => []
  | width + 1, value => hexDigits width (value / 16) ++ [hexDigit (value % 16)]

/-- Reads a non-empty numeral in `base` with the digits `0`–`9`, `a`–`f`. -/
def numeral? (base : Nat) (digits : List Char) : Option Nat :=
  if digits.isEmpty then
    none
  else
    digits.foldl
      (fun value? character => do
        let value ← value?
        let digit ← hexValue? character
        if digit < base then some (value * base + digit) else none)
      (some 0)

/-- Reads a non-empty decimal numeral. -/
def decimal? (digits : List Char) : Option Nat :=
  numeral? 10 digits

/-- The decimal numeral of a number, padded with zeros to `width` digits. -/
def padded (width value : Nat) : String :=
  let digits := Nat.toDigits 10 value
  String.ofList (List.replicate (width - digits.length) '0' ++ digits)

end SessionGateway.Text
