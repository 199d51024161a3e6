import SessionGateway.Http.Authority

/-!
# Request targets

Request targets in origin form, asterisk form, absolute form and authority
form.  The path is kept as written: percent signs are neither checked nor
decoded.  A fragment is dropped.
-/

namespace SessionGateway.Http

/-- A request target. -/
structure Uri where
  scheme : Option String := none
  authority : Option Authority := none
  /-- As written; `/` where an absolute target has no path. -/
  path : List Char := []
  query : Option (List Char) := none
  deriving DecidableEq

namespace Uri

/-- A target may not have more octets. -/
def maxLength : Nat := 65534

/-- A scheme may not have more characters. -/
def maxSchemeLength : Nat := 64

/-- A character of a scheme. -/
def isSchemeCharacter (character : Char) : Bool :=
  character.isAlphanum || character == '+' || character == '-' || character == '.'

/-- A character that may stand in a path. -/
def isPathCharacter (character : Char) : Bool :=
  let code := character.toNat
  code == 0x21 || (0x24 ≤ code && code ≤ 0x3B) || code == 0x3D ||
    (0x40 ≤ code && code ≤ 0x5F) || (0x61 ≤ code && code ≤ 0x7A) || code == 0x7C ||
    code ≥ 0x7E || code == 0x22 || code == 0x7B || code == 0x7D

/-- A character that may stand in a query. -/
def isQueryCharacter (character : Char) : Bool :=
  let code := character.toNat
  code == 0x21 || (0x24 ≤ code && code ≤ 0x3B) || code == 0x3D || 0x3F ≤ code

/-- Reads a path and an optional query; a fragment is dropped. -/
def pathAndQuery? (text : List Char) : Option (List Char × Option (List Char)) :=
  let (path, rest) := text.span fun character => character ≠ '?' ∧ character ≠ '#'
  if path.all isPathCharacter then
    match rest with
    | '?' :: rest =>
        let query := rest.takeWhile (· ≠ '#')
        if query.all isQueryCharacter then some (path, some query) else none
    | _ => some (path, none)
  else
    none

/-- Splits off a scheme and the `://` behind it; fails on a scheme that is too long. -/
def scheme? (text : List Char) : Option (Option String × List Char) :=
  let (scheme, rest) := text.span isSchemeCharacter
  match rest with
  | ':' :: '/' :: '/' :: rest =>
      let known := String.ofList (Text.lower scheme)
      if known = "http" ∨ known = "https" then
        some (some known, rest)
      else if scheme.length ≤ maxSchemeLength then
        some (some (String.ofList scheme), rest)
      else
        none
  | _ => some (none, text)

/-- Reads a target that does not start with a slash. -/
def parseFull? (text : List Char) : Option Uri := do
  match ← scheme? text with
  | (none, text) =>
      let authority ← Authority.parse? text
      some { authority := some authority }
  | (some scheme, rest) =>
      let (authority, rest) ← Authority.scan? rest
      if authority.text.isEmpty then
        none
      else
        let (path, query) ← pathAndQuery? rest
        some
          { scheme := some scheme
            authority := some authority
            path := if path.isEmpty then ['/'] else path
            query }

/-- Reads a request target. -/
def parse? (text : String) : Option Uri :=
  if maxLength < text.utf8ByteSize then
    none
  else
    match text.toList with
    | [] => none
    | ['*'] => some { path := ['*'] }
    | '/' :: rest => do
        let (path, query) ← pathAndQuery? ('/' :: rest)
        some { path, query }
    | characters => parseFull? characters

/-- The target as text, without a fragment. -/
def text (uri : Uri) : String :=
  let scheme := match uri.scheme with
    | some scheme => scheme.toList ++ "://".toList
    | none => []
  let authority := match uri.authority with
    | some authority => authority.text
    | none => []
  let query := match uri.query with
    | some query => '?' :: query
    | none => []
  String.ofList (scheme ++ authority ++ uri.path ++ query)

end Uri

end SessionGateway.Http
