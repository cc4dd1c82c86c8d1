import StyleGuide.Block.Decoration
import StyleGuide.Comment.Reader
import StyleGuide.Report

/-!
The comments of a source text, in one of two dialects.
-/

namespace StyleGuide

inductive Dialect where
  /-- Every block counts, and malformed parameter lines are dropped. -/
  | permissive
  /-- Only blocks of the strict shape count. They need an id and must not be malformed. -/
  | strict
  deriving DecidableEq, Repr

def Dialect.ofName? (name : Text) : Option Dialect :=
  if name = "permissive".toList then some permissive
  else if name = "strict".toList then some strict
  else none

namespace Source

def requiredParameter : Text := ['i', 'd']

def warningOf (path : Path) : Comment.Dropped → Warning
  | .malformed line => .malformedParameter path line
  | .orphan line => .orphanLine path line

/-- Reads one comment from undecorated text. -/
def readComment (policy : Comment.Policy) (path : Path) (t : Text) : Outcome (Option Comment) :=
  match Comment.read policy t with
  | .error line => .fail (.malformedParameter path line)
  | .ok reading =>
    ⟨reading.dropped.map fun d => .warning (warningOf path d), .ok reading.comment⟩

/-- Refuses a comment without the parameter that the strict dialect requires. -/
def requireId (path : Path) : Option Comment → Outcome (Option Comment)
  | some c =>
    if c.parameters.contains requiredParameter then pure (some c)
    else .fail (.missingParameter path requiredParameter)
  | none => pure none

/-- What a block says, which may be nothing. -/
def readBlock (dialect : Dialect) (path : Path) (b : Block) : Outcome (Option Comment) :=
  match dialect with
  | .permissive => readComment .drop path (Block.undecorate b.text)
  | .strict =>
    match b.undecorateStrict? with
    | none => ⟨[.note (.skippedBlock path b.offset)], .ok none⟩
    | some t => (readComment .reject path t).andThen (requireId path)

/-- The comments of a source, in its order. The path is only named in what is reported. -/
def read (dialect : Dialect) (path : Path) (source : Text) : Outcome (List Comment) :=
  (Outcome.each (readBlock dialect path) (Block.all source)).andThen fun comments =>
    pure (comments.filterMap id)

end Source

end StyleGuide
