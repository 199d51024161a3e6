import SessionGateway.Json.Text

/-!
# JSON lists of strings

Reading and writing of a list whose members are all strings.  Blanks may stand
between the tokens; the written form has none.
-/

namespace SessionGateway.Json

/-- A blank between tokens. -/
def isBlank (character : Char) : Bool :=
  character == ' ' || character == '\t' || character == '\n' || character == '\r'

/-- Leaves out blanks in front. -/
def skipBlanks (text : List Char) : List Char :=
  text.dropWhile isBlank

theorem skipBlanks_length_le (text : List Char) : (skipBlanks text).length ≤ text.length :=
  (List.dropWhile_suffix isBlank).length_le

/--
Reads members up to the closing bracket.  The text starts at a member, and
every comma has to be followed by another one.
-/
def readMembers (text : List Char) : Option (List (List Char) × List Char) :=
  match _found : skipBlanks text with
  | '"' :: rest =>
      match _read : readText rest with
      | none => none
      | some (member, behind) =>
          match _next : skipBlanks behind with
          | ',' :: more =>
              (readMembers more).map fun (members, remaining) => (member :: members, remaining)
          | ']' :: more => some ([member], more)
          | _ => none
  | _ => none
termination_by text.length
decreasing_by
  have first := skipBlanks_length_le text
  have second := readText_length _read
  have third := skipBlanks_length_le behind
  rw [_found] at first
  rw [_next] at third
  simp only [List.length_cons] at first second third
  omega

/-- Reads a list of strings up to its closing bracket. -/
def readTextList (text : List Char) : Option (List (List Char) × List Char) :=
  match skipBlanks text with
  | '[' :: rest =>
      match skipBlanks rest with
      | ']' :: more => some ([], more)
      | _ => readMembers rest
  | _ => none

/-- Reads one string. -/
def readTextValue (text : List Char) : Option (List Char × List Char) :=
  match skipBlanks text with
  | '"' :: rest => readText rest
  | _ => none

/-- Accepts what was read if only blanks follow. -/
def whole {α : Type} : Option (α × List Char) → Option α
  | some (value, rest) => if (skipBlanks rest).isEmpty then some value else none
  | none => none

/-- The written form of a list of strings. -/
def writeTextList (texts : List (List Char)) : List Char :=
  '[' :: [','].intercalate (texts.map writeText) ++ [']']

end SessionGateway.Json
