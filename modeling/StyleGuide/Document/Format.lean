import StyleGuide.Document.Data
import StyleGuide.Document.Outline

/-!
The formats in which a document is written.
-/

namespace StyleGuide

inductive Format where
  | json
  | markdown
  deriving DecidableEq, Repr

namespace Format

def ofName? (name : Text) : Option Format :=
  if name = "json".toList then some json
  else if name = "markdown".toList ∨ name = "md".toList then some markdown
  else none

/-- What is said of a name that is no format's. -/
def unknownMessage (name : Text) : Text :=
  "unknown format: ".toList ++ name ++ ". Use json or markdown".toList

/-- The extension of a file in the format. -/
def extension : Format → Text
  | json => "json".toList
  | markdown => "md".toList

end Format

/-- A document as text, if the format can hold it. -/
def Document.render? : Format → Document → Option Text
  | .json, d => d.renderJson?
  | .markdown, d => some d.renderMarkdown

end StyleGuide
