import StyleGuide.Text.Basic

/-!
JSON values. Numbers are kept as they are spelled, and objects keep their members in order and with
repetitions.
-/

namespace StyleGuide

inductive Json where
  | null
  | bool (b : Bool)
  | number (spelling : Text)
  /-- A string, or nothing when an escape in it leaves half of a surrogate pair alone, so that it
  spells no text. -/
  | string (t : Option Text)
  | array (items : List Json)
  | object (members : List (Option Text × Json))

namespace Json

def text (t : Text) : Json := string (some t)

def textOrNull : Option Text → Json
  | none => null
  | some t => text t

/-- An object with the given members. -/
def record (members : List (String × Json)) : Json :=
  object (members.map fun m => (some m.1.toList, m.2))

end Json

end StyleGuide
