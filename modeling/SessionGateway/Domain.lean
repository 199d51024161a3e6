import SessionGateway.Domain.Direction
import SessionGateway.Domain.Joining
import SessionGateway.Domain.Mapping
import SessionGateway.Domain.Punycode

/-!
# Domain names

The ASCII form of a domain name.  A name is mapped and composed, then taken
apart at its full stops; a label that announces an encoded one is decoded.
All labels have to be valid, and the international ones are encoded.

Labels may be empty, may have hyphens anywhere and may be of any length that
can be encoded.
-/

namespace SessionGateway.Domain

/-- An ASCII character that a domain may not hold. -/
def isForbidden (character : Char) : Bool :=
  character.toNat ≤ 0x20 || character.toNat == 0x7F ||
    "%#/:<>?@[\\]^|".toList.contains character

/-- Whether all characters are in the ASCII range. -/
def isAscii (text : List Char) : Bool :=
  text.all (·.toNat < 128)

/-! ## Labels -/

/-- What an encoded label begins with. -/
def encodedMark : List Char :=
  "xn--".toList

/-- Whether a label announces an encoded one. -/
def isEncoded (label : List Char) : Bool :=
  encodedMark.isPrefixOf (Text.lower label)

/-- Longer labels are not decoded. -/
def decodeLimit : Nat := 2000

/-- Longer labels are not encoded. -/
def encodeLimit : Nat := 1000

/--
Decodes a label that announces an encoded one.  What it encodes has to be
international text in its only form; any other label is left as it is.
-/
def decodeLabel? (label : List Char) : Option (List Char) :=
  if isEncoded label then do
    let encoded := label.drop encodedMark.length
    if decodeLimit < encoded.length then
      none
    else
      let decoded ← Punycode.decode? encoded
      if isAscii decoded || !decoded.all isKept || compose decoded != decoded then
        none
      else
        some decoded
  else
    some label

/-- A label that may be part of a name. -/
def isValidLabel (label : List Char) : Bool :=
  !label.any isForbidden && !label.head?.any marks.contains && isJoined [] label

/-- The ASCII form of a label. -/
def encodeLabel? (label : List Char) : Option (List Char) :=
  if isAscii label then
    some label
  else if encodeLimit < label.length then
    none
  else
    some (encodedMark ++ Punycode.encode label)

/-! ## Names -/

/-- A name that is its own ASCII form, up to the case of its letters. -/
def isPlain (name : List Char) : Bool :=
  isAscii name && !(name.splitOn '.').any isEncoded

/-- The ASCII form of a name; none if the name is not valid. -/
def toAscii? (name : List Char) : Option (List Char) :=
  if isPlain name then
    if name.any isForbidden then none else some (Text.lower name)
  else do
    let labels ← ((compose (← map? name)).splitOn '.').mapM decodeLabel?
    if labels.all isValidLabel && areReadable labels then
      some (['.'].intercalate (← labels.mapM encodeLabel?))
    else
      none

end SessionGateway.Domain
