import SessionGateway.Domain.Mapping.Table
import SessionGateway.Text.Ascii

/-!
# The mapping of domain names

Before a domain name is compared or encoded, each of its characters is kept,
dropped or replaced, so that names that people hold for the same become the
same.  ASCII letters are put into lower case; all else is up to the table.
-/

namespace SessionGateway.Domain

/-- What becomes of the characters of a range. -/
inductive Rule where
  | keep
  | drop
  /-- Each character is replaced by a text of its own. -/
  | replace (texts : List (List Char))
  /-- The range is moved to another first code point. -/
  | move (first : Nat)
  /-- Of each two neighbours, the first is replaced by the second. -/
  | pair
  deriving DecidableEq, Repr

/-- A rule and the range that it is for. -/
structure Entry where
  first : Nat
  last : Nat
  rule : Rule
  deriving DecidableEq, Repr

namespace Entry

/-- The characters of code points in hexadecimal with full stops between them. -/
def characters (codes : String) : List Char :=
  (codes.splitOn ".").filterMap fun code => (Text.numeral? 16 code.toList).map Char.ofNat

/-- Reads the last code point of a range and what is behind it. -/
def ofRange? (first : Nat) (text : List Char) : Option Entry := do
  let (digits, rest) := text.span fun character => (Text.hexValue? character).isSome
  let last ← Text.numeral? 16 digits
  match rest with
  | [] => some { first, last, rule := .keep }
  | ['!'] => some { first, last, rule := .drop }
  | '>' :: target => do pure { first, last, rule := .move (← Text.numeral? 16 target) }
  | _ => none

/-- Reads an entry of the table. -/
def ofWord? (word : String) : Option Entry := do
  let (digits, rest) := word.toList.span fun character => (Text.hexValue? character).isSome
  let first ← Text.numeral? 16 digits
  match rest with
  | [] => some { first, last := first, rule := .keep }
  | ['!'] => some { first, last := first, rule := .drop }
  | '-' :: range => ofRange? first range
  | '/' :: last => do pure { first, last := ← Text.numeral? 16 last, rule := .pair }
  | '=' :: targets =>
      let texts := ((String.ofList targets).splitOn ",").map characters
      some { first, last := first + texts.length - 1, rule := .replace texts }
  | _ => none

/-- What becomes of a code point of the range. -/
def apply (entry : Entry) (code : Nat) : List Char :=
  match entry.rule with
  | .keep => [Char.ofNat code]
  | .drop => []
  | .replace texts => texts.getD (code - entry.first) []
  | .move first => [Char.ofNat (first + (code - entry.first))]
  | .pair => [Char.ofNat (if (code - entry.first) % 2 = 0 then code + 1 else code)]

end Entry

/-- The mapping of the characters outside ASCII. -/
def mapping : List Entry :=
  mappingEntries.flatMap fun line => (line.splitOn " ").filterMap Entry.ofWord?

/-- What becomes of a character; none if it may not occur. -/
def mapCharacter? (character : Char) : Option (List Char) :=
  let code := character.toNat
  if code < 128 then
    some [character.toLower]
  else
    (mapping.find? fun entry => entry.first ≤ code && code ≤ entry.last).map (·.apply code)

/-- What becomes of a text. -/
def map? (text : List Char) : Option (List Char) :=
  (text.mapM mapCharacter?).map List.flatten

/-- A character that the mapping keeps. -/
def isKept (character : Char) : Bool :=
  mapCharacter? character == some [character]

end SessionGateway.Domain
