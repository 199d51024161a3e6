import SessionGateway.Url.Host

/-!
# URLs

The scheme, host and port of a URL, read the way browsers read one: blanks
and controls around the text are dropped, tabs and line breaks inside it are
ignored, and a scheme with a known default port may be followed by any number
of slashes of either kind.  Path, query and fragment never make a URL
invalid, so they are not kept.
-/

namespace SessionGateway

/-- The part of a URL that decides its origin. -/
structure Url where
  scheme : String
  host : Option Url.Host := none
  /-- The port, unless it is the default one of the scheme. -/
  port : Option Nat := none
  deriving DecidableEq, Repr

namespace Url

/-- The default port of a scheme that has one. -/
def defaultPort? (scheme : String) : Option Nat :=
  match scheme with
  | "http" | "ws" => some 80
  | "https" | "wss" => some 443
  | "ftp" => some 21
  | _ => none

/-- The port of a URL, or the default one of its scheme. -/
def effectivePort? (url : Url) : Option Nat :=
  url.port.or (defaultPort? url.scheme)

/-- Drops controls and blanks at both ends, and tabs and line breaks everywhere. -/
def clean (text : List Char) : List Char :=
  let isEdge (character : Char) : Bool := character.toNat ≤ 0x20
  ((text.dropWhile isEdge).reverse.dropWhile isEdge).reverse.filter fun character =>
    character ≠ '\t' ∧ character ≠ '\n' ∧ character ≠ '\r'

/-- A character of a scheme behind the first one. -/
def isSchemeCharacter (character : Char) : Bool :=
  character.isAlphanum || character == '+' || character == '-' || character == '.'

/-- Splits off the scheme, in lower case, and the colon behind it. -/
def scheme? (text : List Char) : Option (String × List Char) :=
  let (scheme, rest) := text.span isSchemeCharacter
  match scheme, rest with
  | first :: _, ':' :: rest =>
      if first.isAlpha then some (String.ofList (Text.lower scheme), rest) else none
  | _, _ => none

/-- A character that ends the authority of a URL. -/
def isTerminator (special : Bool) (character : Char) : Bool :=
  character == '/' || character == '?' || character == '#' || (special && character == '\\')

/--
Splits off the user information.  Answers whether there are credentials; a
lone colon is none.
-/
def credentials? (special : Bool) (text : List Char) : Option (Bool × List Char) :=
  let (authority, rest) := text.span fun character => !isTerminator special character
  if authority.contains '@' then
    let host := (authority.reverse.takeWhile (· ≠ '@')).reverse
    let user := authority.take (authority.length - host.length - 1)
    if user.isEmpty && host.isEmpty && !rest.isEmpty then
      none
    else
      some (user ≠ [] ∧ user ≠ [':'], host ++ rest)
  else
    some (false, text)

/-- Splits off the text of the host; colons between square brackets belong to it. -/
def hostText (special : Bool) : (inBrackets : Bool) → List Char → List Char × List Char
  | _, [] => ([], [])
  | inBrackets, character :: rest =>
      if isTerminator special character || (character == ':' && !inBrackets) then
        ([], character :: rest)
      else
        let inside := (inBrackets || character == '[') && character != ']'
        let (host, remaining) := hostText special inside rest
        (character :: host, remaining)

/-- Reads a port up to the end of the authority; an empty port is none. -/
def port? (rest : List Char) : Option (Option Nat) :=
  let (digits, rest) := rest.span Char.isDigit
  if rest.head?.all (isTerminator true) then
    if digits.isEmpty then
      some none
    else
      ((Text.decimal? digits).filter (· < 65536)).map some
  else
    none

/-- Reads host and port behind the slashes of a URL. -/
def authority? (scheme : String) (special : Bool) (text : List Char) : Option Url := do
  let (hasCredentials, text) ← credentials? special text
  let (name, rest) := hostText special false text
  let host ← if special then
      if name.isEmpty then none else Host.parse? name
    else
      Host.parseOpaque? name
  let hasHost := host ≠ .domain []
  let port ← match rest with
    | ':' :: rest => if hasHost then port? rest else none
    | _ => some none
  if !hasHost && hasCredentials then
    none
  else
    some
      { scheme
        host := if hasHost then some host else none
        port := port.filter fun number => some number ≠ defaultPort? scheme }

/-- Reads a URL; a file URL, which has no port, is read without its host. -/
def parse? (text : List Char) : Option Url := do
  let (scheme, rest) ← scheme? (clean text)
  if (defaultPort? scheme).isSome then
    authority? scheme true (rest.dropWhile fun character =>
      character = '/' ∨ character = '\\')
  else
    match rest with
    | '/' :: '/' :: rest =>
        if scheme = "file" then some { scheme } else authority? scheme false rest
    | _ => some { scheme }

/-- The origin of a URL with a host, as a browser writes it. -/
def origin? (url : Url) : Option (List Char) :=
  url.host.map fun host =>
    let port := match url.port with
      | some port => ':' :: Nat.toDigits 10 port
      | none => []
    url.scheme.toList ++ "://".toList ++ host.text ++ port

end Url

end SessionGateway
