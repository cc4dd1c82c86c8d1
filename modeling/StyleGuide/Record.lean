import StyleGuide.Comment
import StyleGuide.Path

/-!
Records: comments together with the file they come from.
-/

namespace StyleGuide

structure Record where
  description : Text := []
  parameters : Parameters := ∅
  /-- Example markup that goes with the record. -/
  markup : Option Text := none
  /-- The file's path as seen from the style root. -/
  sourcePath : Path
  deriving DecidableEq

namespace Record

def ofComment (sourcePath : Path) (c : Comment) : Record :=
  ⟨c.description, c.parameters, none, sourcePath⟩

/-- A parameter's value as text, with `true` for a flag. -/
def param? (r : Record) (name : String) : Option Text :=
  (r.parameters.get? name.toList).map Value.read

/-- A parameter's value if it is not a flag. -/
def text? (r : Record) (name : String) : Option Text :=
  match r.parameters.get? name.toList with
  | some (.text t) => some t
  | _ => none

def hasFlag (r : Record) (name : String) : Bool :=
  r.parameters.get? name.toList = some .flag

/-- The record's name, empty if it has none. -/
def name (r : Record) : Text := (r.param? "name").getD []

end Record

end StyleGuide
