import StyleGuide.Catalogue
import StyleGuide.Tree.Assembly

/-!
Documents: records arranged in one of two layouts.
-/

namespace StyleGuide

inductive Layout where
  | category
  | tree
  deriving DecidableEq, Repr

def Layout.ofName? (name : Text) : Option Layout :=
  if name = "category".toList then some category
  else if name = "tree".toList then some tree
  else none

inductive Document where
  | catalogue (c : Catalogue)
  | tree (root : Tree)

/-- Arranges records, which come in the order of their discovery. -/
def Document.assemble : Layout → List Record → List Event × Document
  | .category, records => (Catalogue.assemble records).map id .catalogue
  | .tree, records => (Tree.assemble records).map id .tree

end StyleGuide
