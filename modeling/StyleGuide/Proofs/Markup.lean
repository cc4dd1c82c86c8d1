import Mathlib.Logic.Relation
import StyleGuide.Markup
import StyleGuide.Proofs.Path
import StyleGuide.Proofs.Text.Utf8

namespace StyleGuide.Markup

open StyleGuide.Path

theorem filter_components (file : Path) :
    (components file).filter (fun c => c ≠ .root ∧ c ≠ .here) = (spoken file).map component := by
  have hfront :
      (frontComponent (splitFront file).1).filter (fun c => c ≠ .root ∧ c ≠ .here) = [] := by
    rcases front_cases file with h | h | ⟨h, _⟩ <;> rw [h] <;> rfl
  have hpieces : ∀ c ∈ (spoken file).map component, c ≠ .root ∧ c ≠ .here := by
    intro c hc
    obtain ⟨piece, _, rfl⟩ := List.mem_map.mp hc
    rw [component]
    split_ifs <;> simp
  rw [components_eq, List.filter_append, hfront, List.nil_append, List.filter_eq_self]
  simpa using hpieces

theorem filter_counts (file : Path) :
    (components file).filter counts = (spoken file).map component := by
  rw [← filter_components]
  congr 1
  funext c
  cases c <;> rfl

theorem pathFor_eq (root source : Path) (file : Text) :
    pathFor root source file = join (join root ((parent? source).getD []))
      (ofComponents ((spoken (Text.bytes file)).map component)) := by
  rw [pathFor, filter_counts]

theorem inner_write {file : Path} {piece : Bytes} (h : piece ∈ spoken file) :
    Inner (component piece).write ∧ components (component piece).write = [component piece] := by
  by_cases hparent : piece = [dot, dot]
  · subst hparent
    exact ⟨rfl, rfl⟩
  · have hname := isName_of_mem_spoken h hparent
    rw [hname.component]
    exact ⟨hname.inner, hname.components⟩

theorem components_foldl_join {file : Path} {pieces : List Bytes}
    (h : ∀ piece ∈ pieces, piece ∈ spoken file) (base : Path) :
    components ((pieces.map component).foldl (fun p c => join p c.write) base) =
      components base ++ pieces.map component := by
  induction pieces generalizing base with
  | nil => simp
  | cons piece pieces ih =>
    obtain ⟨hpiece, hpieces⟩ := List.forall_mem_cons.mp h
    obtain ⟨hinner, hwrite⟩ := inner_write hpiece
    rw [List.map_cons, List.foldl_cons, ih hpieces, components_join base hinner, hwrite,
      List.append_assoc, List.singleton_append]

theorem components_ofComponents (file : Path) :
    components (ofComponents ((spoken file).map component)) = (spoken file).map component :=
  components_foldl_join (fun _ h => h) []

theorem inner_ofComponents (file : Path) : Inner (ofComponents ((spoken file).map component)) := by
  rw [inner_iff, components_ofComponents, ← filter_components]
  simp

/-- The first text is the second one with a slash or a dot added where it names nothing. -/
inductive Padded : Text → Text → Prop
  | slash (v : Text) : Padded ('/' :: v) v
  | dot (v : Text) : Padded ('.' :: '/' :: v) v
  | slashes (u v : Text) : Padded (u ++ '/' :: '/' :: v) (u ++ '/' :: v)
  | dotBetween (u v : Text) : Padded (u ++ '/' :: '.' :: '/' :: v) (u ++ '/' :: v)
  | dotBehind (u : Text) : Padded (u ++ ['/', '.']) u

theorem spoken_bytes_append_slash (u v : Text) : spoken (Text.bytes (u ++ '/' :: v)) =
    spoken (Text.bytes u) ++ spoken (Text.bytes v) := by
  rw [Text.bytes_append]
  exact spoken_append_slash (Text.bytes u) (Text.bytes v)

theorem Padded.spoken_eq {s t : Text} (h : Padded s t) :
    spoken (Text.bytes s) = spoken (Text.bytes t) := by
  have hdot (v : Text) : spoken (Text.bytes ('.' :: '/' :: v)) = spoken (Text.bytes v) :=
    spoken_bytes_append_slash ['.'] v
  have hslash (v : Text) : spoken (Text.bytes ('/' :: v)) = spoken (Text.bytes v) :=
    spoken_bytes_append_slash [] v
  cases h with
  | slash => exact hslash t
  | dot => exact hdot t
  | slashes u v => rw [spoken_bytes_append_slash, spoken_bytes_append_slash, hslash]
  | dotBetween u v => rw [spoken_bytes_append_slash, spoken_bytes_append_slash, hdot]
  | dotBehind => exact (spoken_bytes_append_slash t ['.']).trans (List.append_nil _)

theorem spoken_eq_of_padded {s t : Text} (h : Relation.ReflTransGen Padded s t) :
    spoken (Text.bytes s) = spoken (Text.bytes t) := by
  induction h with
  | refl => rfl
  | tail _ hstep ih => exact ih.trans hstep.spoken_eq

theorem components_pathFor (root source : Path) (file : Text) :
    components (pathFor root source file) =
      components (join root ((parent? source).getD [])) ++
        (spoken (Text.bytes file)).map component := by
  rw [pathFor_eq, components_join _ (inner_ofComponents _), components_ofComponents]

/-- The markup of a record lies where its file's name leads from the directory of the record's own
file in the markup root. A name that does not climb leads to a place below that directory. -/
theorem pathFor_below_root {source : Path} (hsource : ∀ c ∈ components source, ∃ n, c = .name n)
    (root : Path) (file : Text) :
    let dir := (parent? source).getD []
    components (pathFor root source file) = components root ++ components dir ++
        (components (Text.bytes file)).filter (fun c => c ≠ .root ∧ c ≠ .here) ∧
      components dir = (components source).dropLast ∧
      (∀ padded, Relation.ReflTransGen Padded padded file →
        pathFor root source padded = pathFor root source file) ∧
      (.parent ∉ components (Text.bytes file) → ∃ names : List Bytes, (∀ n ∈ names, IsName n) ∧
        components (pathFor root source file) = components (join root dir) ++ names.map .name) := by
  intro dir
  have hinner : Inner source := by
    rw [inner_iff]
    constructor <;>
    · intro hmem
      obtain ⟨n, hn⟩ := hsource _ hmem
      cases hn
  obtain ⟨hdir, hparent⟩ := parent_of_inner hinner
  have hpath := components_pathFor root source file
  refine ⟨?_, hparent, ?_, ?_⟩
  · rw [hpath, components_join root hdir, filter_components]
  · intro padded hpadded
    rw [pathFor_eq, pathFor_eq, spoken_eq_of_padded hpadded]
  · intro hclimb
    have hname : ∀ piece ∈ spoken (Text.bytes file), IsName piece := by
      intro piece hpiece
      apply isName_of_mem_spoken hpiece
      rintro rfl
      apply hclimb
      rw [components_eq, List.mem_append]
      exact Or.inr (List.mem_map_of_mem hpiece)
    refine ⟨spoken (Text.bytes file), hname, ?_⟩
    rw [hpath, List.map_congr_left fun piece hpiece => (hname piece hpiece).component]

def widgets : Path := Text.bytes "widgets/b.less".toList

def markupRoot : Path := Text.bytes ['m']

theorem pathFor_below_root_widgets :
    (∀ c ∈ components widgets, ∃ n, c = .name n) ∧
      components (pathFor markupRoot widgets "../x/y.html".toList) =
        [.name markupRoot, .name (Text.bytes "widgets".toList), .parent, .name (Text.bytes ['x']),
          .name (Text.bytes "y.html".toList)] ∧
      pathFor markupRoot widgets "//x/./y.html".toList =
        pathFor markupRoot widgets "x/y.html".toList ∧
      ∃ names : List Bytes, (∀ n ∈ names, IsName n) ∧
        components (pathFor markupRoot widgets "/x".toList) =
          components (Text.bytes "m/widgets".toList) ++ names.map .name := by
  have hsource : ∀ c ∈ components widgets, ∃ n, c = .name n := by
    have hnames : components widgets =
        [.name (Text.bytes "widgets".toList), .name (Text.bytes "b.less".toList)] := by decide
    rw [hnames]
    simp
  have hpadded : Relation.ReflTransGen Padded "//x/./y.html".toList "x/y.html".toList :=
    .head (.slash _) (.head (.slash _) (.single (.dotBetween ['x'] "y.html".toList)))
  refine ⟨hsource, (pathFor_below_root hsource markupRoot "../x/y.html".toList).1.trans (by decide),
    (pathFor_below_root hsource markupRoot "x/y.html".toList).2.2.1 _ hpadded, ?_⟩
  exact (pathFor_below_root hsource markupRoot "/x".toList).2.2.2 (by decide)

end StyleGuide.Markup
