import SessionGateway.Settings.Document

/-!
# Table trees

The tree of tables that headers and dotted keys build up.  Nothing may be
defined twice: `Tree.define?` adds a value below a dotted key, `Tree.open?`
starts the table of a header, `Tree.openElement?` the next element of a list
of tables.
-/

namespace SessionGateway.Toml

/-- How a table came into being. -/
inductive Kind where
  /-- By a header of its own. -/
  | headed
  /-- By a header of a table inside it. -/
  | implied
  /-- By a dotted key. -/
  | dotted
  deriving DecidableEq, Repr

/-- What a key stands for. -/
inductive Node where
  | value (value : Document)
  | table (kind : Kind) (entries : List (String × Node))
  /-- A list of tables, the latest first. -/
  | elements (tables : List (List (String × Node)))

/-- The entries of a table. -/
abbrev Tree := List (String × Node)

namespace Tree

/-- Puts a node in the place of the one with its key. -/
def replace (entries : Tree) (key : String) (node : Node) : Tree :=
  entries.map fun entry => if entry.1 = key then (key, node) else entry

/--
Changes the table at a path.  Tables missing on the way come into being; a
path of dotted keys may not pass through a table that has a header.
-/
def change? (isDotted : Bool) (path : List String) (change : Kind → Tree → Option Tree)
    (kind : Kind) (entries : Tree) : Option Tree :=
  match path with
  | [] => change kind entries
  | key :: path =>
      match entries.lookup key with
      | none => do
          let added := if isDotted then Kind.dotted else Kind.implied
          let inner ← change? isDotted path change added []
          some (entries ++ [(key, .table added inner)])
      | some (.table inside inner) =>
          if isDotted && inside == .headed then
            none
          else do
            let inner ← change? isDotted path change inside inner
            some (replace entries key (.table inside inner))
      | some (.elements (latest :: earlier)) => do
          let inner ← change? isDotted path change .headed latest
          some (replace entries key (.elements (inner :: earlier)))
      | some (.elements []) => none
      | some (.value _) => none

/-- Adds a value below a dotted key. -/
def define? (entries : Tree) (path : List String) (key : String) (value : Document) :
    Option Tree :=
  change? true path
    (fun kind inner =>
      if !path.isEmpty && kind != .dotted then
        none
      else if (inner.lookup key).isSome then
        none
      else
        some (inner ++ [(key, .value value)]))
    .headed entries

/-- Takes the table of a header out of the tree, if the header may define it. -/
def takeOut? (entries : Tree) (path : List String) (key : String) : Option (Tree × Tree) := do
  let found ← find? path entries
  match found.lookup key with
  | none => some (entries, [])
  | some (.table .implied inner) => do
      let entries ← change? false path
        (fun _ outer => some (outer.filter fun entry => entry.1 ≠ key)) .headed entries
      some (entries, inner)
  | some _ => none
where
  /-- The table at a path, as far as it exists. -/
  find? : List String → Tree → Option Tree
    | [], entries => some entries
    | key :: path, entries =>
        match entries.lookup key with
        | none => find? path []
        | some (.table _ inner) => find? path inner
        | some (.elements (latest :: _)) => find? path latest
        | some _ => none

/-- Puts the table of a header into the tree. -/
def putBack? (entries : Tree) (path : List String) (key : String) (table : Tree) : Option Tree :=
  change? false path
    (fun _ outer => some (outer.filter (fun entry => entry.1 ≠ key) ++
      [(key, .table .headed table)]))
    .headed entries

/-- Whether a header may add an element to the list at its key. -/
def admitsElement (entries : Tree) (path : List String) (key : String) : Bool :=
  match takeOut?.find? path entries with
  | none => false
  | some found =>
      match found.lookup key with
      | none => true
      | some (.elements _) => true
      | some _ => false

/-- Adds an element to a list of tables. -/
def addElement? (entries : Tree) (path : List String) (key : String) (table : Tree) :
    Option Tree :=
  change? false path
    (fun _ outer =>
      match outer.lookup key with
      | none => some (outer ++ [(key, .elements [table])])
      | some (.elements earlier) => some (replace outer key (.elements (table :: earlier)))
      | some _ => none)
    .headed entries

end Tree

mutual

/-- The document a node stands for. -/
def Node.document : Node → Document
  | .value content => content
  | .table _ entries => .table (Tree.documents entries)
  | .elements tables => .list (Tree.rows tables).reverse

/-- The entries of a table as documents. -/
def Tree.documents : List (String × Node) → List (String × Document)
  | [] => []
  | (key, node) :: rest => (key, node.document) :: Tree.documents rest

/-- The tables of a list as documents. -/
def Tree.rows : List (List (String × Node)) → List Document
  | [] => []
  | entries :: rest => .table (Tree.documents entries) :: Tree.rows rest

end

end SessionGateway.Toml
