import SessionGateway.Toml.Value

/-!
# TOML documents

A document is a sequence of entries and headers, one on a line.  Entries go
into the table of the header in front of them.  `Toml.parse?` reads a whole
document; what is wrong with one that is refused is not told.
-/

namespace SessionGateway.Toml

open Reader

/-- What a line holds. -/
inductive Line where
  | blank
  | entry (path : List String) (key : String) (value : Document)
  | header (path : List String) (key : String)
  | element (path : List String) (key : String)

/-- Takes a line. -/
def line : Reader Line := do
  blanks
  match ← get with
  | [] => failure
  | '#' :: _ | '\n' :: _ | '\r' :: _ => do
      lineEnd
      return .blank
  | '[' :: '[' :: rest => do
      set rest
      let (path, name) ← key
      exactly "]]"
      lineEnd
      return .element path name
  | '[' :: rest => do
      set rest
      let (path, name) ← key
      exactly "]"
      lineEnd
      return .header path name
  | _ => do
      let (path, name) ← key
      exactly "="
      blanks
      let content ← value depthLimit
      lineEnd
      return .entry path name content

/-- Where entries go. -/
inductive Section where
  | root
  | table (path : List String) (key : String)
  | element (path : List String) (key : String)

/-- A document under construction: finished tables, and the table that entries go to. -/
structure Draft where
  finished : Tree := []
  current : Tree := []
  place : Section := .root

/-- Puts the current table where it belongs. -/
def Draft.finish? (draft : Draft) : Option Tree :=
  match draft.place with
  | .root => some draft.current
  | .table path name => draft.finished.putBack? path name draft.current
  | .element path name => draft.finished.addElement? path name draft.current

/-- Takes a line into account. -/
def Draft.add? (draft : Draft) : Line → Option Draft
  | .blank => some draft
  | .entry path name content => do
      some { draft with current := ← draft.current.define? path name content }
  | .header path name => do
      let finished ← draft.finish?
      let (finished, current) ← finished.takeOut? path name
      some { finished, current, place := .table path name }
  | .element path name => do
      let finished ← draft.finish?
      if finished.admitsElement path name then
        some { finished, current := [], place := .element path name }
      else
        none

/-- Reads a document; a byte order mark in front of it is left out. -/
def parse? (content : String) : Option Document := do
  let text := match content.toList with
    | '\ufeff' :: rest => rest
    | text => text
  let (lines, rest) := repeated line text
  if (rest.dropWhile fun character => character == ' ' || character == '\t').isEmpty then
    let draft ← lines.foldlM Draft.add? {}
    let tree ← draft.finish?
    some (Node.table .headed tree).document
  else
    none

end SessionGateway.Toml
