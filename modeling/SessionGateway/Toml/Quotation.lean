import SessionGateway.Text.Ascii
import SessionGateway.Toml.Layout

/-!
# Quotations

The four forms of text: basic and literal, each on one line or on several.
Basic forms have escapes.  In the forms on several lines a line break counts
as a line feed however it is written, and the one right behind the opening
quotes is left out.
-/

namespace SessionGateway.Toml

open Reader

/-- A character of basic text that stands for itself. -/
def isBasicCharacter (character : Char) : Bool :=
  isVisible character && character != '"' && character != '\\'

/-- A character of literal text. -/
def isLiteralCharacter (character : Char) : Bool :=
  isVisible character && character != '\''

/-- The character an escape names by its number. -/
def scalar? (digits : List Char) : Option Char := do
  let number ← Text.numeral? 16 (Text.lower digits)
  if h : number.isValidChar then some (Char.ofNatAux number h) else none

/-- Reads an escape; the backslash is already read. -/
def escape? (text : List Char) : Option (Char × List Char) :=
  match text with
  | 'b' :: rest => some ('\x08', rest)
  | 't' :: rest => some ('\t', rest)
  | 'n' :: rest => some ('\n', rest)
  | 'f' :: rest => some ('\x0c', rest)
  | 'r' :: rest => some ('\r', rest)
  | '"' :: rest => some ('"', rest)
  | '\\' :: rest => some ('\\', rest)
  | 'u' :: rest => number 4 rest
  | 'U' :: rest => number 8 rest
  | _ => none
where
  /-- Reads a character number of a fixed length. -/
  number (length : Nat) (rest : List Char) : Option (Char × List Char) := do
    let digits := rest.take length
    if digits.length = length then
      some (← scalar? digits, rest.drop length)
    else
      none

/-- Reads basic text up to its closing quote. -/
def basicBody (text : List Char) : Option (List Char × List Char) :=
  match text with
  | '"' :: rest => some ([], rest)
  | '\\' :: rest => do
      let (character, remaining) ← escape? rest
      if remaining.length < rest.length then
        let (body, remaining) ← basicBody remaining
        some (character :: body, remaining)
      else
        none
  | character :: rest =>
      if isBasicCharacter character then do
        let (body, remaining) ← basicBody rest
        some (character :: body, remaining)
      else
        none
  | [] => none
termination_by text.length

/-- Whether a text starts with a line break. -/
def startsWithBreak : List Char → Bool
  | '\n' :: _ => true
  | '\r' :: '\n' :: _ => true
  | _ => false

/-- Leaves out blanks and line breaks; a lone carriage return stops it. -/
def skipLayout : List Char → List Char
  | '\r' :: '\n' :: rest => skipLayout rest
  | character :: rest =>
      if character == ' ' || character == '\t' || character == '\n' then
        skipLayout rest
      else
        character :: rest
  | [] => []

theorem skipLayout_length_le (text : List Char) : (skipLayout text).length ≤ text.length := by
  fun_induction skipLayout text <;> simp_all <;> omega

/-- Whether only blanks stand between here and the next line break. -/
def isLineTail (text : List Char) : Bool :=
  startsWithBreak (text.dropWhile fun character => character == ' ' || character == '\t')

/-- Reads basic text on several lines up to its closing quotes. -/
def basicLines (text : List Char) : Option (List Char × List Char) :=
  match text with
  | '"' :: '"' :: '"' :: '"' :: '"' :: rest => some (['"', '"'], rest)
  | '"' :: '"' :: '"' :: '"' :: rest => some (['"'], rest)
  | '"' :: '"' :: '"' :: rest => some ([], rest)
  | '\r' :: '\n' :: rest => do
      let (body, remaining) ← basicLines rest
      some ('\n' :: body, remaining)
  | '\\' :: rest =>
      if isLineTail rest then
        have := skipLayout_length_le rest
        basicLines (skipLayout rest)
      else do
        let (character, remaining) ← escape? rest
        if remaining.length < rest.length then
          let (body, remaining) ← basicLines remaining
          some (character :: body, remaining)
        else
          none
  | character :: rest =>
      if isBasicCharacter character || character == '"' || character == '\n' then do
        let (body, remaining) ← basicLines rest
        some (character :: body, remaining)
      else
        none
  | [] => none
termination_by text.length

/-- Reads literal text on several lines up to its closing quotes. -/
def literalLines : List Char → Option (List Char × List Char)
  | '\'' :: '\'' :: '\'' :: '\'' :: '\'' :: rest => some (['\'', '\''], rest)
  | '\'' :: '\'' :: '\'' :: '\'' :: rest => some (['\''], rest)
  | '\'' :: '\'' :: '\'' :: rest => some ([], rest)
  | '\r' :: '\n' :: rest => do
      let (body, remaining) ← literalLines rest
      some ('\n' :: body, remaining)
  | character :: rest =>
      if isVisible character || character == '\n' then do
        let (body, remaining) ← literalLines rest
        some (character :: body, remaining)
      else
        none
  | [] => none

/-- Takes text on one line. -/
def lineText : Reader (List Char) := do
  match ← get with
  | '"' :: rest => do
      let (body, remaining) ← basicBody rest
      set remaining
      return body
  | '\'' :: _ => do
      exactly "'"
      let body ← all isLiteralCharacter
      exactly "'"
      return body
  | _ => failure

/-- Takes text in any of the four forms. -/
def quotation : Reader (List Char) := do
  match ← get with
  | '"' :: '"' :: '"' :: rest => do
      let (body, remaining) ← basicLines (afterBreak rest)
      set remaining
      return body
  | '\'' :: '\'' :: '\'' :: rest => do
      let (body, remaining) ← literalLines (afterBreak rest)
      set remaining
      return body
  | _ => lineText
where
  /-- Leaves out one line break. -/
  afterBreak : List Char → List Char
    | '\n' :: rest => rest
    | '\r' :: '\n' :: rest => rest
    | text => text

end SessionGateway.Toml
