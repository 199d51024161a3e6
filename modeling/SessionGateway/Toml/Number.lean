import SessionGateway.Text.Ascii
import SessionGateway.Toml.Reader

/-!
# Numbers

Integers of sixty-four bits and floating-point numbers.  Only the value of an
integer is kept: no setting holds a fraction, so a floating-point number is
read for its form, and for not being too large.
-/

namespace SessionGateway.Toml

open Reader

/-- Reads a run of digits; a single underscore may stand between two of them. -/
def digitRun? (isDigit : Char → Bool) : List Char → Option (List Char × List Char)
  | [] => none
  | character :: rest =>
      if isDigit character then
        match digitRun? isDigit rest with
        | some (digits, remaining) => some (character :: digits, remaining)
        | none =>
            match rest with
            | '_' :: more =>
                match digitRun? isDigit more with
                | some (digits, remaining) => some (character :: digits, remaining)
                | none => some ([character], rest)
            | _ => some ([character], rest)
      else
        none

/-- Takes a run of digits. -/
def digitRun (isDigit : Char → Bool) : Reader (List Char) :=
  fun text => digitRun? isDigit text

/-- Takes the digits of a decimal integer, which has no leading zero. -/
def decimalDigits : Reader (List Char) := do
  match ← peek? with
  | some '0' => do
      exactly "0"
      return ['0']
  | _ => digitRun Char.isDigit

/-- Takes a sign; answers whether it is a minus. -/
def sign : Reader Bool :=
  (exactly "-" *> pure true) <|> (exactly "+" *> pure false) <|> pure false

/-- A number in the range of sixty-four signed bits. -/
def bounded (value : Int) : Reader Int :=
  if -9223372036854775808 ≤ value ∧ value ≤ 9223372036854775807 then pure value else failure

/-- Takes the digits of an integer with a marked base. -/
def based (base : Nat) (isDigit : Char → Bool) : Reader Int := do
  let digits ← digitRun isDigit
  match Text.numeral? base (Text.lower digits) with
  | some value => bounded value
  | none => failure

/-- Takes an integer. -/
def integer : Reader Int := do
  match ← get with
  | '0' :: 'x' :: rest => do
      set rest
      based 16 fun character => (Text.hexValue? character).isSome
  | '0' :: 'o' :: rest => do
      set rest
      based 8 fun character => '0' ≤ character && character ≤ '7'
  | '0' :: 'b' :: rest => do
      set rest
      based 2 fun character => character == '0' || character == '1'
  | _ => do
      let negative ← sign
      match Text.decimal? (← decimalDigits) with
      | some value => bounded (if negative then -value else value)
      | none => failure

/--
Whether a decimal fraction without a sign is too large to be a floating-point
number.  The bound is halfway between the largest one and the next one that
there would be.
-/
def isTooLarge (whole fraction : List Char) (exponent : Int) : Bool :=
  let digits := (whole ++ fraction).dropWhile (· == '0')
  let places := exponent - fraction.length
  let magnitude := places + digits.length
  if digits.isEmpty || magnitude < 309 then
    false
  else if 309 < magnitude then
    true
  else
    let value := (Text.decimal? digits).getD 0
    let bound := 1 <<< 1024 - 1 <<< 970
    if 0 ≤ places then
      bound ≤ value * Nat.pow 10 places.toNat
    else
      bound * Nat.pow 10 (-places).toNat ≤ value

/-- Takes the exponent of a floating-point number. -/
def exponent : Reader Int := do
  let _ ← one fun character => character == 'e' || character == 'E'
  let negative ← sign
  match Text.decimal? (← digitRun Char.isDigit) with
  | some value => return if negative then -value else value
  | none => failure

/-- Takes a floating-point number that is not too large. -/
def float : Reader Unit := do
  let negative ← sign
  match ← peek? with
  | some 'i' => exactly "inf"
  | some 'n' => exactly "nan"
  | _ => do
      let whole ← decimalDigits
      let fraction ← optional (exactly "." *> digitRun Char.isDigit)
      let power ← optional exponent
      if fraction.isNone && power.isNone then
        failure
      else if !negative && isTooLarge whole (fraction.getD []) (power.getD 0) then
        failure
      else
        return ()

end SessionGateway.Toml
