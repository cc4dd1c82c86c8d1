import StyleGuide.Document
import StyleGuide.Json.Reader
import StyleGuide.Source

/-!
Configurations and their JSON form: an object with optional members, or an array of all of them in
a fixed order.
-/

namespace StyleGuide

structure Config where
  styleFolder : Option Text := none
  markupFolder : Option Text := none
  outputFolder : Option Text := none
  styleIgnore : List Text := []
  styleExtensions : List Text := []
  dialect : Option Dialect := none
  layout : Option Layout := none
  jobs : Option Nat := none
  deriving DecidableEq, Repr

namespace Config

/-- The member names, in the order of the array form. -/
def keys : List Text :=
  ["styleFolder", "markupFolder", "outputFolder", "styleIgnore", "styleExtensions", "dialect",
    "layout", "jobs"].map String.toList

def textOf? : Json → Option Text
  | .string t => t
  | _ => none

def textsOf? : Json → Option (List Text)
  | .array items => items.mapM textOf?
  | _ => none

/-- One pattern, or a list of them. -/
def patternsOf? : Json → Option (List Text)
  | .string t => t.map ([·])
  | j => textsOf? j

/-- A choice is its name, or an object whose one member has that name and says nothing. -/
def choiceName? : Json → Option Text
  | .string t => t
  | .object [(key, .null)] => key
  | _ => none

def dialectOf? (j : Json) : Option Dialect := (choiceName? j).bind Dialect.ofName?

def layoutOf? (j : Json) : Option Layout := (choiceName? j).bind Layout.ofName?

/-- A whole number of at most 64 bits, spelled with digits alone. -/
def countOf? : Json → Option Nat
  | .number spelling => Text.word? spelling
  | _ => none

/-- A member that may be missing or null. -/
def optional {α : Type} (read : Json → Option α) : Option Json → Option (Option α)
  | none | some .null => some none
  | some j => (read j).map some

/-- A member that may be missing and not null. -/
def orEmpty (read : Json → Option (List Text)) : Option Json → Option (List Text)
  | none => some []
  | some j => read j

/-- The value of a known member. A member that is given twice is none at all. -/
def member? (members : List (Option Text × Json)) (key : Text) : Option (Option Json) :=
  match members.filter fun m => m.1 = some key with
  | [] => some none
  | [m] => some (some m.2)
  | _ => none

/-- The configuration with the given members, in the order of `keys`. -/
def ofMembers? : List (Option Json) → Option Config
  | [styleFolder, markupFolder, outputFolder, styleIgnore, styleExtensions, dialect, layout,
      jobs] => do
      let styleFolder ← optional textOf? styleFolder
      let markupFolder ← optional textOf? markupFolder
      let outputFolder ← optional textOf? outputFolder
      let styleIgnore ← orEmpty patternsOf? styleIgnore
      let styleExtensions ← orEmpty textsOf? styleExtensions
      let dialect ← optional dialectOf? dialect
      let layout ← optional layoutOf? layout
      let jobs ← optional countOf? jobs
      return ⟨styleFolder, markupFolder, outputFolder, styleIgnore, styleExtensions, dialect,
        layout, jobs⟩
  | _ => none

/-- Members with other names are passed over, whatever their values are. -/
def ofJson? : Json → Option Config
  | .object members =>
    if members.all (·.1.isSome) then (keys.mapM (member? members)).bind ofMembers? else none
  | .array items => ofMembers? (items.map some)
  | _ => none

def parse? (t : Text) : Option Config := (Json.parse? t).bind ofJson?

end Config

end StyleGuide
