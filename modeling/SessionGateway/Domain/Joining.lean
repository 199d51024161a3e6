import SessionGateway.Domain.Composition
import SessionGateway.Domain.Joining.Table

/-!
# Joining

Two invisible characters say whether the letters around them are joined.  A
label may hold them only where they make a visible difference.
-/

namespace SessionGateway.Domain

/-- Letters that join the next one. -/
def joinsNext : Text.CodeSet :=
  .ofLines (leftJoiningRanges ++ dualJoiningRanges)

/-- Letters that join the one before them. -/
def joinsPrevious : Text.CodeSet :=
  .ofLines (rightJoiningRanges ++ dualJoiningRanges)

/-- Characters that joining passes through. -/
def transparent : Text.CodeSet :=
  .ofLines transparentRanges

/-- Combining marks. -/
def marks : Text.CodeSet :=
  .ofLines markRanges

/-- Whether the first character that joining does not pass through is in a set. -/
def joins (set : Text.CodeSet) (text : List Char) : Bool :=
  (text.find? fun character => set.contains character || !transparent.contains character).any
    set.contains

/-- Whether a character may stand between others; the last one before it comes first. -/
def mayStand (before : List Char) (character : Char) (behind : List Char) : Bool :=
  let isSilenced := before.head?.any fun last => combiningClass last == viramaClass
  match character with
  | '\u200c' => isSilenced || (joins joinsNext before && joins joinsPrevious behind)
  | '\u200d' => isSilenced
  | _ => true

/-- Whether every character of a label may stand where it does. -/
def isJoined (before : List Char) : List Char → Bool
  | [] => true
  | character :: rest => mayStand before character rest && isJoined (character :: before) rest

end SessionGateway.Domain
