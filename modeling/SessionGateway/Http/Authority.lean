import SessionGateway.Text.Ascii

/-!
# Authorities

The authority of a request: optional user information, a host that may be a
bracketed address, and an optional port.  `Authority.scan?` splits a text into
its leading authority and the rest, `Authority.parse?` reads a text that is an
authority as a whole.

The port is read leniently: a port text that is no number below 65536 counts
as no port at all.
-/

namespace SessionGateway.Http

/-- Reads a number below 65536, with any number of leading zeros and an optional plus sign. -/
def port? (text : List Char) : Option Nat :=
  let digits := match text with
    | '+' :: rest => rest
    | _ => text
  if digits.all Char.isDigit then
    (Text.decimal? digits).filter (· < 65536)
  else
    none

/-- A well-formed authority, kept as its text. -/
structure Authority where
  text : List Char
  deriving DecidableEq

namespace Authority

/-- A character that may stand in an authority. -/
def isAuthorityCharacter (character : Char) : Bool :=
  character.isAlphanum || "!$&'()*+,-.:;=@[]_~".toList.contains character

/-- A character that ends an authority. -/
def isTerminator (character : Char) : Bool :=
  character == '/' || character == '?' || character == '#'

/-- What reading an authority has met so far. -/
structure Progress where
  /-- Colons since the last `@` or `]`. -/
  colons : Nat := 0
  opened : Bool := false
  closed : Bool := false
  /-- A percent sign since the last `@` or `]`. -/
  percent : Bool := false

/-- Reads one character of an authority. -/
def Progress.next? (progress : Progress) (character : Char) : Option Progress :=
  if character = ':' then
    if progress.colons < 8 then
      some { progress with colons := progress.colons + 1 }
    else
      none
  else if character = '[' then
    if progress.percent || progress.opened then
      none
    else
      some { progress with opened := true }
  else if character = ']' then
    if !progress.opened || progress.closed then
      none
    else
      some { progress with closed := true, colons := 0, percent := false }
  else if character = '@' then
    some { progress with colons := 0, percent := false }
  else if character = '%' then
    some { progress with percent := true }
  else if isAuthorityCharacter character then
    some progress
  else
    none

/-- Whether a text without terminators is a well-formed authority; the empty text is one. -/
def isWellFormed (text : List Char) : Bool :=
  match text.foldlM Progress.next? {} with
  | none => false
  | some progress =>
      progress.opened == progress.closed && progress.colons ≤ 1 &&
        text.getLast? != some '@' && !progress.percent

/-- Splits a text into its leading authority and the rest. -/
def scan? (text : List Char) : Option (Authority × List Char) :=
  let (authority, rest) := text.span fun character => !isTerminator character
  if isWellFormed authority then some (⟨authority⟩, rest) else none

/-- Reads a text that is a non-empty authority as a whole. -/
def parse? (text : List Char) : Option Authority :=
  match scan? text with
  | some (authority, []) => if authority.text.isEmpty then none else some authority
  | _ => none

/-- The authority without its user information. -/
def hostAndPort (authority : Authority) : List Char :=
  (authority.text.splitOn '@').getLast?.getD []

/-- The host; a bracketed address keeps its brackets. -/
def host (authority : Authority) : List Char :=
  match authority.hostAndPort with
  | '[' :: rest => '[' :: rest.takeWhile (· ≠ ']') ++ [']']
  | text => text.takeWhile (· ≠ ':')

/-- The text behind the last colon, if there is a colon. -/
def portText? (authority : Authority) : Option (List Char) :=
  if authority.text.contains ':' then
    (authority.text.splitOn ':').getLast?
  else
    none

/-- The port, if the text behind the last colon is one. -/
def port? (authority : Authority) : Option Nat :=
  authority.portText?.bind Http.port?

end Authority

end SessionGateway.Http
