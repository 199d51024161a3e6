import SessionGateway.Text.Ascii

/-!
# Punycode

The writing of international text with letters, digits and hyphens.  The ASCII
characters of a text stand in front, in order; a number for each other one
says how far to move on, through all code points and all places, until it has
to be inserted.  Numbers are written in base thirty-six, least digit first,
and the last digit of a number is the one below its threshold.

Neither direction needs fuel: a number that is read takes at least one
character, and a number that is written gets smaller with every digit.
-/

namespace SessionGateway.Domain.Punycode

/-! ## Digits -/

/-- The value of a digit: letters come first, in either case. -/
def digitValue? (character : Char) : Option Nat :=
  if 'a' ≤ character ∧ character ≤ 'z' then
    some (character.toNat - 97)
  else if 'A' ≤ character ∧ character ≤ 'Z' then
    some (character.toNat - 65)
  else if character.isDigit then
    some (character.toNat - 22)
  else
    none

/-- The digit of a value below thirty-six. -/
def digit (value : Nat) : Char :=
  if value < 26 then Char.ofNat (97 + value) else Char.ofNat (22 + value)

/-- The least value of a digit that is not the last one of its number. -/
def threshold (weight bias : Nat) : Nat :=
  max 1 (min 26 (weight - bias))

theorem one_le_threshold (weight bias : Nat) : 1 ≤ threshold weight bias := by
  simp only [threshold]
  omega

theorem threshold_le (weight bias : Nat) : threshold weight bias ≤ 26 := by
  simp only [threshold]
  omega

/-! ## The bias -/

/-- The bias for a number that has been scaled down. -/
def scaledBias (number : Nat) : Nat :=
  if 455 < number then 36 + scaledBias (number / 35) else 36 * number / (number + 38)
termination_by number
decreasing_by exact Nat.div_lt_self (by omega) (by omega)

/-- The bias after a number that made the text `count` characters long. -/
def adapt (number count : Nat) (isFirst : Bool) : Nat :=
  let scaled := number / (if isFirst then 700 else 2)
  scaledBias (scaled + scaled / count)

/-! ## Reading -/

/-- Every number is below this one. -/
def numberLimit : Nat := UInt32.size

/-- Reads the digits of a number, the first of which counts `unit`, and adds it to `sum`. -/
def readNumber? (bias : Nat) :
    (weight unit sum : Nat) → List Char → Option (Nat × List Char)
  | _, _, _, [] => none
  | weight, unit, sum, character :: rest => do
      let value ← digitValue? character
      let total := sum + value * unit
      let least := threshold weight bias
      if numberLimit ≤ total then
        none
      else if value < least then
        some (total, rest)
      else if numberLimit ≤ unit * (36 - least) then
        none
      else
        readNumber? bias (weight + 36) (unit * (36 - least)) total rest

theorem readNumber?_length {bias weight unit sum total : Nat} {text rest : List Char}
    (read : readNumber? bias weight unit sum text = some (total, rest)) :
    rest.length < text.length := by
  induction text generalizing weight unit sum with
  | nil => simp [readNumber?] at read
  | cons character text hypothesis =>
      rw [readNumber?] at read
      cases digit : digitValue? character with
      | none => simp [digit] at read
      | some value =>
          simp only [digit, Option.bind_eq_bind, Option.bind_some] at read
          split at read
          · cases read
          · split at read
            · cases read
              simp
            · split at read
              · cases read
              · exact Nat.lt_succ_of_lt (hypothesis read)

/-- The character of a code point. -/
def character? (code : Nat) : Option Char :=
  if code.isValidChar then some (Char.ofNat code) else none

/--
Reads numbers and inserts the characters they stand for.  The text so far has
been searched up to `place` for the code point `code`.
-/
def insertAll? (code place bias : Nat) (isFirst : Bool) (text numbers : List Char) :
    Option (List Char) :=
  if numbers.isEmpty then
    some text
  else
    match _read : readNumber? bias 36 1 place numbers with
    | none => none
    | some (total, rest) =>
        let count := text.length + 1
        let found := code + total / count
        match character? found with
        | none => none
        | some character =>
            insertAll? found (total % count + 1) (adapt (total - place) count isFirst) false
              (text.insertIdx (total % count) character) rest
termination_by numbers.length
decreasing_by exact readNumber?_length _read

/-- Splits off what stands in front of the last hyphen, unless nothing does. -/
def splitBasic (text : List Char) : List Char × List Char :=
  let numbers := (text.reverse.takeWhile (· ≠ '-')).reverse
  let basic := text.take (text.length - numbers.length - 1)
  if basic.isEmpty then ([], text) else (basic, numbers)

/-- Reads a text. -/
def decode? (text : List Char) : Option (List Char) :=
  let (basic, numbers) := splitBasic text
  insertAll? 128 0 72 true basic numbers

/-! ## Writing -/

/-- The digits of a number. -/
def writeNumber (bias weight number : Nat) : List Char :=
  let least := threshold weight bias
  if number < least then
    [digit number]
  else
    digit (least + (number - least) % (36 - least)) ::
      writeNumber bias (weight + 36) ((number - least) / (36 - least))
termination_by number
decreasing_by
  have positive := one_le_threshold weight bias
  calc (number - threshold weight bias) / (36 - threshold weight bias)
      ≤ number - threshold weight bias := Nat.div_le_self _ _
    _ < number := by omega

/-- The state of a writing. -/
structure Writing where
  output : List Char := []
  /-- How far the reader has to move on. -/
  distance : Nat := 0
  bias : Nat := 72
  /-- How many characters the reader has. -/
  count : Nat
  isFirst : Bool := true

/-- Passes a character while all occurrences of a code point are written. -/
def Writing.pass (code : Nat) (writing : Writing) (character : Char) : Writing :=
  if character.toNat < code then
    { writing with distance := writing.distance + 1 }
  else if character.toNat = code then
    { output := writing.output ++ writeNumber writing.bias 36 writing.distance
      distance := 0
      bias := adapt writing.distance (writing.count + 1) writing.isFirst
      count := writing.count + 1
      isFirst := false }
  else
    writing

/-- Writes the occurrences of code points, which are given in ascending order. -/
def writeAll (text : List Char) : (next : Nat) → List Nat → Writing → List Char
  | _, [], writing => writing.output
  | next, code :: codes, writing =>
      let moved :=
        { writing with
          distance := writing.distance + (code - next) * (writing.count + 1) }
      let passed := text.foldl (Writing.pass code) moved
      writeAll text (code + 1) codes { passed with distance := passed.distance + 1 }

/-- Writes a text. -/
def encode (text : List Char) : List Char :=
  let basic := text.filter (·.toNat < 128)
  let codes := (text.map Char.toNat).filter (128 ≤ ·)
  let separator := if basic.isEmpty then [] else ['-']
  basic ++ separator ++
    writeAll text 128 (codes.mergeSort (· ≤ ·)).eraseDups { count := basic.length }

end SessionGateway.Domain.Punycode
