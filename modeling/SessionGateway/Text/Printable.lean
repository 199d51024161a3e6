import SessionGateway.Text.CodeSet
import SessionGateway.Text.Printable.Table

/-!
# Printable characters

Which characters a log shows as they are.
-/

namespace SessionGateway.Text

/-- The characters that cannot be shown. -/
def unprintable : CodeSet :=
  .ofLines unprintableRanges

/-- The characters that extend the one before them. -/
def extenders : CodeSet :=
  .ofLines extenderRanges

/-- A character that can be shown; all ASCII characters but the controls can. -/
def isPrintable (character : Char) : Bool :=
  0x20 ≤ character.toNat && (character.toNat < 0x7F || !unprintable.contains character)

/-- A character that extends the one before it; no ASCII character does. -/
def isExtender (character : Char) : Bool :=
  0x7F < character.toNat && extenders.contains character

end SessionGateway.Text
