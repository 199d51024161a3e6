import SessionGateway.Toml.Reader

/-!
# Layout

Blanks, line breaks and comments.  Control characters other than the tab are
allowed nowhere, and a carriage return only in front of a line feed.
-/

namespace SessionGateway.Toml

open Reader

/-- A character that may stand in a comment or in text: no control but the tab. -/
def isVisible (character : Char) : Bool :=
  character == '\t' || (0x20 ≤ character.toNat && character.toNat != 0x7F)

/-- Takes blanks and tabs. -/
def blanks : Reader Unit := do
  let _ ← all fun character => character == ' ' || character == '\t'

/-- Takes a line break. -/
def lineBreak : Reader Unit :=
  exactly "\n" <|> exactly "\r\n"

/-- Takes a comment up to the end of its line. -/
def comment : Reader Unit := do
  exactly "#"
  let _ ← all isVisible

/-- Takes the end of the text. -/
def atEnd : Reader Unit := do
  if (← get).isEmpty then pure () else failure

/-- Takes what may follow an expression on its line, and the line break. -/
def lineEnd : Reader Unit := do
  blanks
  let _ ← optional comment
  lineBreak <|> atEnd

/-- Takes blanks, comments and line breaks. -/
def spacing : Reader Unit := do
  blanks
  let _ ← many do
    let _ ← optional comment
    lineBreak
    blanks

end SessionGateway.Toml
