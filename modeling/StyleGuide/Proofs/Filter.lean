import Mathlib.Data.List.Basic
import StyleGuide.Filter
import StyleGuide.Proofs.Text.Utf8

namespace StyleGuide

namespace Pattern

end Pattern

namespace Filter

def after (f : Filter) (steps : List Step) : Filter := steps.foldl (fun f s => (f.step s).1) f

/-- The base name is another one than the text, but the text is shown for it. -/
def Mimics (t : Text) (path : Path) : Prop :=
  ∃ name, Path.fileName? path = some name ∧ name ≠ Text.bytes t ∧ Bytes.shown name = t

/-- Only a name that spells no text can look like another one. -/
theorem Mimics.text?_eq_none {t : Text} {path : Path} (h : Mimics t path) {name : Bytes}
    (hname : Path.fileName? path = some name) : Bytes.text? name = none := by
  obtain ⟨_, hname', hne, hshown⟩ := h
  obtain rfl := Option.some.inj (hname.symm.trans hname')
  by_contra hsome
  obtain ⟨u, hu⟩ := Option.ne_none_iff_exists'.mp hsome
  rw [Bytes.shown_of_text? hu] at hshown
  subst hshown
  exact hne (Bytes.text?_eq_some_iff.mp hu)

end Filter

end StyleGuide
