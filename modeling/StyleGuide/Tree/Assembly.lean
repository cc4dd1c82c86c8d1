import StyleGuide.Record
import StyleGuide.Report
import StyleGuide.Tree

/-!
The tree layout. Each record stands at the node that its id names; the last of several records
with one id stays.
-/

namespace StyleGuide.Tree

def entryOf (id : Text) (r : Record) : TreeEntry where
  id := id
  title := r.param? "title"
  description := if r.description.isEmpty then none else some r.description
  markup := r.markup

/-- The record's id, if it has one with at least one segment. -/
def usableId? (r : Record) : Option Text :=
  match r.text? "id" with
  | some id => if (segments id).isEmpty then none else some id
  | none => none

/-- Puts a record at its node. -/
def place (t : Tree) (r : Record) : List Event × Tree :=
  match usableId? r with
  | none => ([.warning (.missingId r.sourcePath)], t)
  | some id =>
    let path := segments id
    let taken := ((t.descend? path).bind entry).isSome
    (if taken then [.warning (.duplicateId r.sourcePath id)] else [],
      t.alter (setEntry (some (entryOf id r))) path)

def placeAll (t : Tree) : List Record → List Event × Tree
  | [] => ([], t)
  | r :: rs =>
    let (events, t') := t.place r
    let (more, last) := placeAll t' rs
    (events ++ more, last)

/-- Arranges records, which come in the order of their discovery, below an unnamed root. -/
def assemble (records : List Record) : List Event × Tree := placeAll (leaf []) records

end StyleGuide.Tree
