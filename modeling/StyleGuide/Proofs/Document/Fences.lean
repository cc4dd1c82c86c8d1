import StyleGuide.Proofs.Document.Headings

namespace StyleGuide

namespace Text

/-- What ends a line for a reader of Markdown: a newline only, or a carriage return as well, alone
or in front of a newline. -/
inductive LineBreaks where
  | newline
  | any

/-- The text with a newline for every line break. -/
def newlines : Text → Text
  | [] => []
  | '\r' :: '\n' :: t => '\n' :: newlines t
  | c :: t => (if c = '\r' then '\n' else c) :: newlines t

def LineBreaks.lines : LineBreaks → Text → List Text
  | newline, t => pieces '\n' t
  | any, t => pieces '\n' (newlines t)

theorem newlines_append {a : Text} (h : ¬ ['\r'] <:+ a) (b : Text) :
    newlines (a ++ '\n' :: b) = newlines a ++ '\n' :: newlines b := by
  fun_induction newlines a with
  | case1 => simp [newlines]
  | case2 a ih =>
    have ha : ¬ ['\r'] <:+ a := fun hs => h (hs.trans ((List.suffix_cons _ _).trans
      (List.suffix_cons _ _)))
    rw [List.cons_append, List.cons_append, newlines, ih ha, List.cons_append]
  | case3 c a hpair ih =>
    have ha : ¬ ['\r'] <:+ a := fun hs => h (hs.trans (List.suffix_cons _ _))
    rw [List.cons_append, newlines, ih ha, List.cons_append]
    -- The character makes no pair with the next one, also when that is the newline put behind.
    intro t hc hrest
    cases a with
    | nil => exact h (by simp [hc])
    | cons d a =>
      obtain ⟨rfl, rfl⟩ := List.cons.inj hrest
      exact hpair a hc rfl

theorem LineBreaks.lines_append (e : LineBreaks) {a : Text} (h : ¬ ['\r'] <:+ a) (b : Text) :
    e.lines (a ++ '\n' :: b) = e.lines a ++ e.lines b := by
  cases e with
  | newline => exact pieces_append_sep '\n' a b
  | any => rw [lines, newlines_append h, pieces_append_sep]; rfl

end Text

namespace Outline

/-- Whether Markdown takes the line for the end of a fence: at most three spaces, three or more
backticks, and then only spaces and tabs. -/
def closesFence (line : Text) : Bool :=
  let marks := line.dropWhile (· = ' ')
  let rest := marks.dropWhile (· = '\x60')
  line.length ≤ marks.length + 3 && rest.length + 3 ≤ marks.length &&
    rest.all fun c => c = ' ' || c = '\t'

theorem findIdx_closesFence (inside rest : List Text) :
    (inside ++ fenceClosing :: rest).findIdx closesFence = inside.length ↔
      ∀ line ∈ inside, closesFence line = false := by
  have hclosing : closesFence fenceClosing = true := by decide
  have hle : inside.findIdx closesFence ≤ inside.length := List.findIdx_le_length
  rw [← List.findIdx_eq_length, List.findIdx_append, List.findIdx_cons, hclosing, cond_true,
    Nat.zero_add]
  split <;> omega

end Outline

/-- A section without its markup, and the markup. -/
structure Exhibit where
  plain : Section
  markup : Option Text

namespace Exhibit

def lines (x : Exhibit) : List Text := x.plain.lines ++ Outline.markupLines x.markup

end Exhibit

def Exhibit.category (name : Text) : Exhibit := ⟨⟨2, name, some 0, []⟩, none⟩

def Record.exhibit (level : Nat) (depth : Option Nat) (r : Record) : Exhibit :=
  ⟨Outline.recordSection level depth { r with markup := none }, r.markup⟩

def Tree.exhibit (depth : Nat) : Tree → Exhibit
  | .node key entry children =>
    ⟨Outline.nodeSection (depth, .node key (entry.map ({ · with markup := none })) children),
      entry.bind TreeEntry.markup⟩

/-- All records or nodes of a document in their order, and its categories, which have no markup. -/
def Document.exhibits : Document → List Exhibit
  | .catalogue c => c.entries.flatMap fun bucket =>
    .category bucket.1 :: bucket.2.flatMap fun e =>
      e.record.exhibit 3 (some 1) :: e.modifiers.map (Record.exhibit 4 none)
  | .tree root => (Tree.preorderAll 1 root.children).map fun n => n.2.exhibit n.1

theorem Record.lines_exhibit (level : Nat) (depth : Option Nat) (r : Record) :
    (r.exhibit level depth).lines = (Outline.recordSection level depth r).lines := by
  simp [exhibit, Exhibit.lines, Outline.recordSection, Section.lines, Outline.recordTitle,
    Record.param?, Outline.markupLines]

theorem Tree.lines_exhibit (n : Nat × Tree) :
    (n.2.exhibit n.1).lines = (Outline.nodeSection n).lines := by
  obtain ⟨depth, ⟨key, entry, children⟩⟩ := n
  cases entry with
  | none => rfl
  | some e =>
    simp [exhibit, Exhibit.lines, Outline.nodeSection, Section.lines, Outline.nodeTitle,
      Outline.entryLines, Tree.key, Tree.entry, Outline.markupLines]

theorem Document.flatMap_lines_exhibits (d : Document) :
    d.exhibits.flatMap Exhibit.lines = d.sections.flatMap Section.lines := by
  cases d with
  | catalogue c =>
    simp only [exhibits, sections, List.flatMap_assoc, Outline.categorySections,
      Outline.entrySections, List.flatMap_cons, List.flatMap_map, Record.lines_exhibit]
    rfl
  | tree root =>
    rw [exhibits, sections, Outline.forestSections_eq, List.flatMap_map, List.flatMap_map]
    exact List.flatMap_congr fun n _ => Tree.lines_exhibit n

namespace Outline

/-- No carriage return stands at the end of the lines, to become part of the next line break. -/
def Settled (ls : List Text) : Prop := ∀ line ∈ ls.getLast?, ¬ ['\r'] <:+ line

theorem settled_nil : Settled [] := by simp [Settled]

theorem settled_concat (ls : List Text) {line : Text} (h : ¬ ['\r'] <:+ line) :
    Settled (ls ++ [line]) := by simpa [Settled] using h

theorem Settled.append {xs ys : List Text} (hxs : Settled xs) (hys : Settled ys) :
    Settled (xs ++ ys) := by
  rcases List.eq_nil_or_concat' ys with rfl | ⟨init, last, rfl⟩
  · rwa [List.append_nil]
  · rw [← List.append_assoc]
    exact settled_concat _ (hys last (by simp))

theorem Settled.joinLines {ls : List Text} (h : Settled ls) : ¬ ['\r'] <:+ Text.joinLines ls := by
  rcases List.eq_nil_or_concat' ls with rfl | ⟨init, last, rfl⟩
  · decide
  · have hlast := h last (by simp)
    by_cases hinit : init = []
    · subst hinit
      simpa [Text.joinLines, Text.join] using hlast
    · rw [Text.joinLines_concat hinit]
      rw [List.singleton_suffix_iff_getLast?_eq_some] at hlast ⊢
      rw [List.getLast?_append, List.getLast?_cons, Option.some_or]
      intro hreturn
      cases hchar : last.getLast? with
      | none => simp [hchar] at hreturn
      | some c => exact hlast (hchar.trans (by simpa [hchar] using hreturn))

theorem settled_headingLine (level : Nat) (title : Text) :
    Settled [Section.headingLine level title] := by
  apply settled_concat []
  rw [Section.headingLine, List.singleton_suffix_iff_getLast?_eq_some, List.getLast?_concat]
  decide

theorem settled_blank (ls : List Text) : Settled (ls ++ [[]]) := settled_concat ls (by decide)

theorem settled_paragraph (t : Text) : Settled (paragraph t) := by
  rw [paragraph]
  split_ifs
  · exact settled_nil
  · exact settled_blank [t]

theorem settled_parameterLines (ps : Parameters) : Settled (parameterLines ps) := by
  rw [parameterLines]
  split
  · exact settled_nil
  · exact settled_blank _

theorem settled_entryLines {e : TreeEntry} (h : e.markup = none) :
    Settled (entryLines (some e)) := by
  obtain ⟨id, title, description, markup⟩ := e
  obtain rfl : markup = none := h
  cases description with
  | none =>
    apply settled_concat []
    have hsplit : "`".toList ++ id ++ "`\n".toList = ('\x60' :: id ++ ['\x60']) ++ ['\n'] :=
      (List.append_assoc ('\x60' :: id) ['\x60'] ['\n']).symm
    rw [List.singleton_suffix_iff_getLast?_eq_some, hsplit, List.getLast?_concat]
    decide
  | some t => exact settled_blank [_, t]

end Outline

theorem Record.settled_exhibit (level : Nat) (depth : Option Nat) (r : Record) :
    Outline.Settled (r.exhibit level depth).plain.lines := by
  have hcontent : Outline.Settled (r.exhibit level depth).plain.content :=
    ((Outline.settled_paragraph _).append (Outline.settled_parameterLines _)).append
      Outline.settled_nil
  exact (Outline.settled_headingLine level _).append hcontent

theorem Tree.settled_exhibit (depth : Nat) (t : Tree) :
    Outline.Settled (t.exhibit depth).plain.lines := by
  obtain ⟨key, entry, children⟩ := t
  cases entry with
  | none => exact Outline.settled_headingLine _ _
  | some e => exact (Outline.settled_headingLine _ _).append (Outline.settled_entryLines rfl)

theorem Document.settled_exhibits {d : Document} {x : Exhibit} (hx : x ∈ d.exhibits) :
    Outline.Settled x.plain.lines := by
  cases d with
  | catalogue c =>
    obtain ⟨bucket, _, hx⟩ := List.mem_flatMap.mp hx
    rcases List.mem_cons.mp hx with rfl | hx
    · exact Outline.settled_headingLine _ _
    · obtain ⟨e, _, hx⟩ := List.mem_flatMap.mp hx
      rcases List.mem_cons.mp hx with rfl | hx
      · exact e.record.settled_exhibit _ _
      · obtain ⟨m, _, rfl⟩ := List.mem_map.mp hx
        exact m.settled_exhibit _ _
  | tree root =>
    obtain ⟨n, _, rfl⟩ := List.mem_map.mp hx
    exact n.2.settled_exhibit _

namespace Document

/-- The lines that an outline has in front of the markup of `x`, which comes after the exhibits
`before`. -/
def linesAbove (d : Document) (before : List Exhibit) (x : Exhibit) : List Text :=
  Section.headingLine 2 Outline.indexTitle ::
    Outline.indexLines d.sections (Outline.sectionAnchors d.sections) ++
    [] :: before.flatMap Exhibit.lines ++ x.plain.lines

theorem settled_linesAbove {d : Document} {before after : List Exhibit} {x : Exhibit}
    (hd : d.exhibits = before ++ x :: after) : Outline.Settled (d.linesAbove before x) := by
  have hmem : x ∈ d.exhibits := hd ▸ List.mem_append_cons_self
  have hx := settled_exhibits hmem
  have hlast : x.plain.lines ≠ [] := List.cons_ne_nil _ _
  intro line hline
  rw [linesAbove, List.getLast?_append_of_ne_nil _ hlast] at hline
  exact hx line hline

theorem exists_joinEnded (ls : List Text) :
    ∃ tail, Outline.joinEnded ls = Text.joinLines ls ++ tail := by
  unfold Outline.joinEnded
  dsimp only
  split
  · exact ⟨[], (List.append_nil _).symm⟩
  · exact ⟨[], (List.append_nil _).symm⟩
  · exact ⟨['\n'], rfl⟩

theorem exists_outlineLines {d : Document} {before after : List Exhibit} {x : Exhibit} {m : Text}
    (hd : d.exhibits = before ++ x :: after) (hm : x.markup = some m) :
    ∃ below, Outline.outlineLines d.sections = d.linesAbove before x ++
      Outline.fenceOpening :: Text.trimEnd m :: Outline.fenceClosing :: [] :: below := by
  have hmarkup : x.lines = x.plain.lines ++
      [Outline.fenceOpening, Text.trimEnd m, Outline.fenceClosing, []] := by
    rw [Exhibit.lines, hm]
    rfl
  refine ⟨after.flatMap Exhibit.lines, ?_⟩
  rw [Outline.outlineLines, linesAbove, Outline.sectionAnchors, ← flatMap_lines_exhibits, hd,
    List.flatMap_append, List.flatMap_cons, hmarkup]
  simp

theorem exists_renderMarkdown {d : Document} {before after : List Exhibit} {x : Exhibit} {m : Text}
    (hd : d.exhibits = before ++ x :: after) (hm : x.markup = some m) :
    ∃ rest, d.renderMarkdown = Text.joinLines (d.linesAbove before x) ++ '\n' ::
      (Outline.fenceOpening ++ '\n' ::
        (Text.trimEnd m ++ '\n' :: (Outline.fenceClosing ++ '\n' :: rest))) := by
  have hsections : d.sections ≠ [] := by
    intro hnil
    have hlines := d.flatMap_lines_exhibits
    rw [hnil, hd] at hlines
    simp [Exhibit.lines, Section.lines] at hlines
  have habove : d.linesAbove before x ≠ [] := List.cons_ne_nil _ _
  obtain ⟨below, hbelow⟩ := exists_outlineLines hd hm
  obtain ⟨tail, htail⟩ := exists_joinEnded (Outline.outlineLines d.sections)
  refine ⟨Text.joinLines ([] :: below) ++ tail, ?_⟩
  rw [renderMarkdown, Outline.ofSections, if_neg (by simpa using hsections), htail, hbelow,
    Text.joinLines_append habove (List.cons_ne_nil _ _),
    Text.joinLines_cons (List.cons_ne_nil _ _), Text.joinLines_cons (List.cons_ne_nil _ _),
    Text.joinLines_cons (List.cons_ne_nil _ _)]
  simp

theorem exists_lines_renderMarkdown {d : Document} {before after : List Exhibit} {x : Exhibit}
    {m : Text} (hd : d.exhibits = before ++ x :: after) (hm : x.markup = some m)
    (e : Text.LineBreaks) :
    ∃ rest, e.lines d.renderMarkdown = e.lines (Text.joinLines (d.linesAbove before x)) ++
      Outline.fenceOpening :: (e.lines (Text.trimEnd m) ++ Outline.fenceClosing :: rest) := by
  obtain ⟨rest, hrest⟩ := exists_renderMarkdown hd hm
  have habove := (settled_linesAbove hd).joinLines
  have hinside : ¬ ['\r'] <:+ Text.trimEnd m :=
    Text.not_suffix_of_trimEnd (Text.trimEnd_trimEnd m) rfl
  have hopening : e.lines Outline.fenceOpening = [Outline.fenceOpening] := by cases e <;> decide
  have hclosing : e.lines Outline.fenceClosing = [Outline.fenceClosing] := by cases e <;> decide
  refine ⟨e.lines rest, ?_⟩
  rw [hrest, e.lines_append habove, e.lines_append (by decide), e.lines_append hinside,
    e.lines_append (by decide), hopening, hclosing]
  rfl

/-- The first line that ends the fence of a markup is the line which the outline has for it just
when the markup has no such line of its own. -/
theorem fence_closed_iff (d : Document) {before after : List Exhibit} {x : Exhibit} {m : Text}
    (hd : d.exhibits = before ++ x :: after) (hm : x.markup = some m) (e : Text.LineBreaks) :
    let ls := e.lines d.renderMarkdown
    let opening := (e.lines (Text.joinLines (d.linesAbove before x))).length
    let inside := e.lines (Text.trimEnd m)
    ls[opening]? = some Outline.fenceOpening ∧
      (∃ rest, ls.drop (opening + 1) = inside ++ Outline.fenceClosing :: rest) ∧
      ((ls.drop (opening + 1)).findIdx Outline.closesFence = inside.length ↔
        ∀ line ∈ inside, Outline.closesFence line = false) := by
  intro ls opening inside
  obtain ⟨rest, hls⟩ := exists_lines_renderMarkdown hd hm e
  have hdrop : ls.drop (opening + 1) = inside ++ Outline.fenceClosing :: rest := by
    rw [show ls = _ from hls, List.drop_append, List.drop_of_length_le (Nat.le_succ _)]
    simp [opening, inside]
  refine ⟨?_, ⟨rest, hdrop⟩, ?_⟩
  · rw [show ls = _ from hls, List.getElem?_append_right (Nat.le_refl _), Nat.sub_self]
    rfl
  · rw [hdrop]
    exact Outline.findIdx_closesFence inside rest

def sample (markup : Text) : Record where
  parameters := .ofList [("category".toList, .text "x".toList), ("name".toList, .text "y".toList)]
  markup := some markup
  sourcePath := Text.bytes "a.css".toList

def samplePage (markup : Text) : Document :=
  .catalogue ⟨[("x".toList, [⟨sample markup, []⟩])], List.pairwise_singleton _ _⟩

theorem exhibits_samplePage (markup : Text) :
    (samplePage markup).exhibits =
      [.category "x".toList] ++ (sample markup).exhibit 3 (some 1) :: [] := rfl

theorem fence_closed_iff_quoted :
    let markup := "<pre>\n```js\n    ```\n</pre>\n".toList
    let ls := Text.LineBreaks.any.lines (samplePage markup).renderMarkdown
    (samplePage markup).exhibits =
        [.category "x".toList] ++ (sample markup).exhibit 3 (some 1) :: [] ∧
      ((sample markup).exhibit 3 (some 1)).markup = some markup ∧
      ls[9]? = some Outline.fenceOpening ∧ (ls.drop 10).findIdx Outline.closesFence = 4 := by
  intro markup ls
  have hd := exhibits_samplePage markup
  have habove : (Text.LineBreaks.any.lines (Text.joinLines ((samplePage markup).linesAbove
      [.category "x".toList] ((sample markup).exhibit 3 (some 1))))).length = 9 := by decide +kernel
  obtain ⟨hopening, -, hfirst⟩ := (samplePage markup).fence_closed_iff hd rfl .any
  rw [habove] at hopening hfirst
  exact ⟨hd, rfl, hopening, hfirst.mpr (by decide)⟩

theorem samplePage_leaves_fence :
    let markup := "<pre>\n```\n</pre>".toList
    .catalogue (Catalogue.assemble [sample markup]).2 = samplePage markup ∧
      ¬ ∀ (d : Document) (before after : List Exhibit) (x : Exhibit) (m : Text),
        d.exhibits = before ++ x :: after → x.markup = some m → ∀ e : Text.LineBreaks,
          let opening := (e.lines (Text.joinLines (d.linesAbove before x))).length
          ((e.lines d.renderMarkdown).drop (opening + 1)).findIdx Outline.closesFence =
            (e.lines (Text.trimEnd m)).length := by
  intro markup
  refine ⟨congrArg Document.catalogue (by decide +kernel), fun h => ?_⟩
  have hfirst := h _ _ _ _ _ (exhibits_samplePage markup) rfl .newline
  exact absurd hfirst (by decide +kernel)

end Document

end StyleGuide
