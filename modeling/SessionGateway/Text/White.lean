/-!
# White space

The characters with the Unicode `White_Space` property, and trimming by them.
Path segments, header items and client frames are all trimmed by this one
class, never by the narrower ASCII one.
-/

namespace SessionGateway.Text

/-- A character with the Unicode `White_Space` property. -/
def isWhite (character : Char) : Bool :=
  let code := character.toNat
  (9 ≤ code && code ≤ 13) || code == 0x20 || code == 0x85 || code == 0xA0 ||
    code == 0x1680 || (0x2000 ≤ code && code ≤ 0x200A) || code == 0x2028 ||
    code == 0x2029 || code == 0x202F || code == 0x205F || code == 0x3000

/-- The text without its leading white space. -/
def trimStart (text : List Char) : List Char :=
  text.dropWhile isWhite

/-- The text without its trailing white space. -/
def trimEnd (text : List Char) : List Char :=
  (text.reverse.dropWhile isWhite).reverse

/-- The text without white space at either end. -/
def trim (text : List Char) : List Char :=
  trimEnd (trimStart text)

/-- Text made of white space only; the empty text is blank. -/
def isBlank (text : List Char) : Bool :=
  text.all isWhite

end SessionGateway.Text
