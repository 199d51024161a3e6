import SessionGateway.Toml.Moment
import SessionGateway.Toml.Number
import SessionGateway.Toml.Quotation
import SessionGateway.Toml.Tree

/-!
# Keys and values

Keys may be dotted.  Values are texts, numbers, truth values, moments, lists
and tables on one line; lists and such tables nest at most seventy-nine deep.
-/

namespace SessionGateway.Toml

open Reader

/-- A character of a key without quotes. -/
def isKeyCharacter (character : Char) : Bool :=
  character.isAlphanum || character == '-' || character == '_'

/-- Takes one part of a key. -/
def keyPart : Reader String := do
  match ← peek? with
  | some '"' | some '\'' => return String.ofList (← lineText)
  | _ => do
      let first ← one isKeyCharacter
      return String.ofList (first :: (← all isKeyCharacter))

/-- A dotted key may not have this many parts. -/
def keyLimit : Nat := 80

/-- Takes a dotted key: the parts in front of the last one, and the last one. -/
def key : Reader (List String × String) := do
  let part : Reader String := do
    blanks
    let name ← keyPart
    blanks
    return name
  let first ← part
  let parts := first :: (← many (exactly "." *> part))
  if parts.length < keyLimit then
    return (parts.dropLast, parts.getLast?.getD first)
  else
    failure

/-- Takes a value that is neither a list nor a table. -/
def plainValue : Reader Document := do
  match ← peek? with
  | some '"' | some '\'' => return .text (String.ofList (← quotation))
  | some 't' => exactly "true" *> pure (.truth true)
  | some 'f' => exactly "false" *> pure (.truth false)
  | some 'i' | some 'n' => float *> pure .other
  | _ =>
      (moment *> pure (.table [])) <|> (float *> pure .other) <|> (.integer <$> integer)

/-- Takes a list of values. -/
def list (value : Reader Document) : Reader Document := do
  exactly "["
  let values ← separated (exactly ",") (spacing *> value <* spacing)
  unless values.isEmpty do
    let _ ← optional (exactly ",")
  spacing
  exactly "]"
  return .list values

/-- Takes a table on one line. -/
def inlineTable (value : Reader Document) : Reader Document := do
  exactly "\x7b"
  let entries ← separated (exactly ",") do
    let name ← key
    exactly "="
    blanks
    let content ← value
    blanks
    return (name, content)
  blanks
  exactly "\x7d"
  let tree ← entries.foldlM
    (fun (tree : Tree) ((path, name), content) => tree.define? path name content) []
  return (Node.table .headed tree).document

/-- Takes a value with at most `depth` lists and tables around its innermost part. -/
def value : (depth : Nat) → Reader Document
  | 0 => do
      match ← peek? with
      | some '[' | some '\x7b' => failure
      | _ => plainValue
  | depth + 1 => do
      match ← peek? with
      | some '[' => list (value depth)
      | some '\x7b' => inlineTable (value depth)
      | _ => plainValue

/-- The greatest depth of a value. -/
def depthLimit : Nat := 79

end SessionGateway.Toml
