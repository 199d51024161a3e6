/-!
# Readers

A reader takes a value off the front of a text and leaves the rest, or fails.
Repetition needs no bound of its own: it goes on only while the rest gets
shorter.
-/

namespace SessionGateway.Toml

/-- Takes a value off the front of a text. -/
abbrev Reader := StateT (List Char) Option

namespace Reader

/-- The next character, which stays where it is. -/
def peek? : Reader (Option Char) := do
  return (← get).head?

/-- Takes a fixed text. -/
def exactly (expected : String) : Reader Unit := do
  let text ← get
  if expected.toList.isPrefixOf text then
    set (text.drop expected.length)
  else
    failure

/-- Takes one character of a class. -/
def one (isMember : Char → Bool) : Reader Char := do
  match ← get with
  | character :: rest =>
      if isMember character then
        set rest
        return character
      else
        failure
  | [] => failure

/-- Takes characters of a class as long as there are any. -/
def all (isMember : Char → Bool) : Reader (List Char) := do
  let (taken, rest) := (← get).span isMember
  set rest
  return taken

/-- Takes exactly `count` characters of a class. -/
def times (count : Nat) (isMember : Char → Bool) : Reader (List Char) := do
  let text ← get
  let taken := text.take count
  if taken.length = count ∧ taken.all isMember then
    set (text.drop count)
    return taken
  else
    failure

/-- Takes values as long as there are any, each from a shorter rest. -/
def repeated {α : Type} (reader : Reader α) (text : List Char) : List α × List Char :=
  match reader text with
  | none => ([], text)
  | some (value, rest) =>
      if rest.length < text.length then
        let (values, remaining) := repeated reader rest
        (value :: values, remaining)
      else
        ([], text)
termination_by text.length

/-- Takes values as long as there are any. -/
def many {α : Type} (reader : Reader α) : Reader (List α) := do
  let (values, rest) := repeated reader (← get)
  set rest
  return values

/-- Takes any number of values with a separator between each two. -/
def separated {α : Type} (separator : Reader Unit) (reader : Reader α) : Reader (List α) := do
  match ← optional reader with
  | none => return []
  | some first => return first :: (← many (separator *> reader))

end Reader

end SessionGateway.Toml
