import StyleGuide.Record
import StyleGuide.Report

/-!
The category layout. Records stand under their category, sorted by name, and records that modify
another one stand with that one.
-/

namespace StyleGuide

/-- A record of a category with the records that modify it. -/
structure CatalogueEntry where
  record : Record
  modifiers : List Record := []
  deriving DecidableEq

def CatalogueEntry.name (e : CatalogueEntry) : Text := e.record.name

abbrev Catalogue := Dict (List CatalogueEntry)

namespace Record

/-- The name of the record that this one modifies. -/
def parent? (r : Record) : Option Text := (r.text? "modifies").or (r.text? "parent")

/-- A parameter that should name the record to modify and names none. -/
def bareParent? (r : Record) : Option Text :=
  if r.hasFlag "modifies" then some "modifies".toList
  else if r.hasFlag "parent" then some "parent".toList
  else none

def isModifier (r : Record) : Bool := r.parent?.isSome

def category? (r : Record) : Option Text := r.param? "category"

end Record

namespace Catalogue

/-- Adds a record behind the others of its category. One without a category is left out. -/
def add (c : Catalogue) (r : Record) : Catalogue :=
  match r.category? with
  | none => c
  | some category => c.insert category ((c.get? category).getD [] ++ [⟨r, []⟩])

/-- Sorts by name. Records of one name keep their order. -/
def sortEntries (entries : List CatalogueEntry) : List CatalogueEntry :=
  entries.mergeSort fun a b => Text.atMost a.name b.name

/-- Puts a modifier with the first entry that has the name. -/
def attachTo? (parent : Text) (modifier : Record) :
    List CatalogueEntry → Option (List CatalogueEntry)
  | [] => none
  | e :: es =>
    if e.name = parent then some ({ e with modifiers := e.modifiers ++ [modifier] } :: es)
    else (attachTo? parent modifier es).map (e :: ·)

/-- Puts a modifier with its parent, which is looked for in the modifier's own category. -/
def attach? (c : Catalogue) (modifier : Record) : Option Catalogue :=
  let category := modifier.category?.getD []
  match c.get? category with
  | none => none
  | some entries =>
    (attachTo? (modifier.parent?.getD []) modifier entries).map fun es => c.insert category es

/-- Puts the modifiers with their parents in turn, and warns of those that have none. -/
def attachAll (c : Catalogue) : List Record → List Event × Catalogue
  | [] => ([], c)
  | m :: ms =>
    match c.attach? m with
    | some d => attachAll d ms
    | none =>
      let (events, d) := attachAll c ms
      (.warning (.missingParent m.sourcePath m.name (m.parent?.getD []) (m.category?.getD [])) ::
        events, d)

def emptyParentWarning? (r : Record) : Option Event :=
  r.bareParent?.map fun param => .warning (.emptyParent r.sourcePath r.name param)

/-- Arranges records, which come in the order of their discovery. -/
def assemble (records : List Record) : List Event × Catalogue :=
  let plain := records.filter (!·.isModifier)
  let leftOut := plain.countP (·.category?.isNone)
  let catalogue := (plain.foldl add ∅).map sortEntries
  let (events, catalogue) := attachAll catalogue (records.filter (·.isModifier))
  (plain.filterMap emptyParentWarning? ++
    (if leftOut = 0 then [] else [.note (.leftOut leftOut)]) ++ events, catalogue)

end Catalogue

end StyleGuide
