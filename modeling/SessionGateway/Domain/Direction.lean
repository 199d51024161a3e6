import SessionGateway.Domain.Direction.Table
import SessionGateway.Text.CodeSet

/-!
# The direction of labels

A domain name with a label that is written from right to left has to be
readable in any surroundings.  Each of its labels therefore starts with a
letter, keeps to characters of its own direction, and ends with a letter or a
number.
-/

namespace SessionGateway.Domain

/-- The characters by bidirectional class. -/
def directionClasses : List (Direction × Text.CodeSet) :=
  directionRanges.map fun (direction, lines) => (direction, .ofLines lines)

/-- The bidirectional class of a character. -/
def direction (character : Char) : Direction :=
  ((directionClasses.find? fun (_, set) => set.contains character).map Prod.fst).getD .left

namespace Direction

/-- A class that makes a name one with text from right to left. -/
def isRightToLeft : Direction → Bool
  | right | arabic | arabicNumber => true
  | _ => false

/-- A class that labels of both directions may hold. -/
def isCommon : Direction → Bool
  | number | separator | commonSeparator | terminator | mark | boundary | neutral => true
  | _ => false

/-- The classes of a label without the marks at its end. -/
def withoutMarks (label : List Direction) : List Direction :=
  (label.reverse.dropWhile (· == mark)).reverse

/-- A label from left to right. -/
def isLeftLabel (label : List Direction) : Bool :=
  label.all (fun direction => direction == left || direction.isCommon) &&
    ((withoutMarks label).getLast?.any fun direction =>
      direction == left || direction == number)

/-- A label from right to left; it does not mix the two kinds of numbers. -/
def isRightLabel (label : List Direction) : Bool :=
  label.all (fun direction => direction.isRightToLeft || direction.isCommon) &&
    ((withoutMarks label).getLast?.any fun direction =>
      direction.isRightToLeft || direction == number) &&
    !(label.contains number && label.contains arabicNumber)

/-- A label that is readable in any surroundings; an empty one is. -/
def isReadable (label : List Direction) : Bool :=
  match label with
  | [] => true
  | left :: _ => isLeftLabel label
  | right :: _ | arabic :: _ => isRightLabel label
  | _ => false

end Direction

/-- Whether the labels of a name respect the direction of its text. -/
def areReadable (labels : List (List Char)) : Bool :=
  let classes := labels.map (·.map direction)
  !classes.any (·.any Direction.isRightToLeft) || classes.all Direction.isReadable

end SessionGateway.Domain
