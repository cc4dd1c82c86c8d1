import StyleGuide.Document.Outline
import StyleGuide.Proofs.Anchor
import StyleGuide.Proofs.Dict
import StyleGuide.Proofs.Text.Lines

namespace StyleGuide

/-- A heading that a document asks for. -/
structure Heading where
  level : Nat
  text : Text
  /-- Its depth in the index. A modifier does not stand there. -/
  depth : Option Nat

namespace Heading

def line (h : Heading) : Text := List.replicate h.level '#' ++ ' ' :: h.text

def textOf (line : Text) : Text := (line.dropWhile (· = '#')).drop 1

theorem textOf_line (h : Heading) : textOf h.line = h.text := by
  have hmarks : ∀ c ∈ List.replicate h.level '#', (c = '#' : Bool) = true := by simp
  rw [textOf, line, List.dropWhile_append_of_pos hmarks]
  simp

end Heading

namespace Tree

mutual

/-- A node and those below it, each in front of its children, with their depths. -/
def preorder (depth : Nat) : Tree → List (Nat × Tree)
  | node k e cs => (depth, node k e cs) :: preorderAll (depth + 1) cs

def preorderAll (depth : Nat) : List Tree → List (Nat × Tree)
  | [] => []
  | t :: ts => preorder depth t ++ preorderAll depth ts

end

end Tree

def Record.heading (level : Nat) (depth : Option Nat) (r : Record) : Heading :=
  ⟨level, (r.param? "name").getD "(unnamed)".toList, depth⟩

def Document.headings : Document → List Heading
  | .catalogue c => c.entries.flatMap fun bucket =>
    ⟨2, bucket.1, some 0⟩ :: bucket.2.flatMap fun e =>
      e.record.heading 3 (some 1) :: e.modifiers.map (Record.heading 4 none)
  | .tree root => (Tree.preorderAll 1 root.children).map fun n =>
    ⟨min (n.1 + 1) 6, (n.2.entry.bind TreeEntry.title).getD n.2.key, some (n.1 - 1)⟩

namespace Outline

def fenceOpening : Text := "```html".toList

def fenceClosing : Text := "```".toList

/-- The lines that start with a number sign, but for those in fences. -/
def headingLines : (fenced : Bool) → List Text → List Text
  | _, [] => []
  | true, line :: rest => headingLines (line ≠ fenceClosing) rest
  | false, line :: rest =>
    if line = fenceOpening then headingLines true rest
    else if ['#'].isPrefixOf line then line :: headingLines false rest
    else headingLines false rest

/-- No line of the text is taken for a heading or for the start of a fence. -/
def Quiet (t : Text) : Prop :=
  ∀ line ∈ Text.pieces '\n' t, ¬ ['#'] <+: line ∧ line ≠ fenceOpening

/-- No line of the text is taken for the end of a fence. -/
def Fenceable (t : Text) : Prop := ∀ line ∈ Text.pieces '\n' t, line ≠ fenceClosing

instance (t : Text) : Decidable (Quiet t) :=
  inferInstanceAs (Decidable (∀ line ∈ Text.pieces '\n' t, ¬ ['#'] <+: line ∧ line ≠ fenceOpening))

instance (t : Text) : Decidable (Fenceable t) :=
  inferInstanceAs (Decidable (∀ line ∈ Text.pieces '\n' t, line ≠ fenceClosing))

/-- Lines that hold no heading and leave no fence open. -/
def Passed (ls : List Text) : Prop :=
  ∀ rest, headingLines false (ls ++ rest) = headingLines false rest

theorem passed_nil : Passed [] := fun _ => rfl

theorem Passed.append {xs ys : List Text} (hxs : Passed xs) (hys : Passed ys) :
    Passed (xs ++ ys) := by
  intro rest
  rw [List.append_assoc, hxs, hys]

theorem passed_of_quiet_lines {ls : List Text}
    (h : ∀ line ∈ ls, ¬ ['#'] <+: line ∧ line ≠ fenceOpening) : Passed ls := by
  intro rest
  induction ls with
  | nil => rfl
  | cons line ls ih =>
    obtain ⟨hmark, hfence⟩ := h line List.mem_cons_self
    rw [List.cons_append, headingLines, if_neg hfence, if_neg (by simpa using hmark),
      ih fun l hl => h l (List.mem_cons_of_mem _ hl)]

theorem passed_blank : Passed [[]] := passed_of_quiet_lines (by decide)

theorem headingLines_fenced {ls : List Text} (h : ∀ line ∈ ls, line ≠ fenceClosing)
    (rest : List Text) : headingLines true (ls ++ rest) = headingLines true rest := by
  induction ls with
  | nil => rfl
  | cons line ls ih =>
    have hline : decide (line ≠ fenceClosing) = true := by simpa using h line List.mem_cons_self
    rw [List.cons_append, headingLines, hline, ih fun l hl => h l (List.mem_cons_of_mem _ hl)]

theorem passed_fence {ls : List Text} {last : Text} (h : ∀ line ∈ ls, line ≠ fenceClosing) :
    Passed (fenceOpening :: (ls ++ [last]) ++ [fenceClosing, []]) := by
  intro rest
  have hclosing : Passed [fenceClosing] := passed_of_quiet_lines (by decide)
  have hsplit : fenceOpening :: (ls ++ [last]) ++ [fenceClosing, []] ++ rest =
      fenceOpening :: (ls ++ last :: fenceClosing :: [] :: rest) := by simp
  rw [hsplit, headingLines, if_pos rfl, headingLines_fenced h, headingLines]
  by_cases hlast : last = fenceClosing
  · -- The trimmed markup ends its own fence, and the closing line stands outside.
    simp only [hlast, ne_eq, not_true_eq_false, decide_false]
    exact (hclosing _).trans (passed_blank rest)
  · simp only [hlast, ne_eq, not_false_eq_true, decide_true]
    rw [headingLines]
    simp only [ne_eq, not_true_eq_false, decide_false]
    exact passed_blank rest

theorem passed_markup {m : Text} (h : Fenceable m) :
    Passed ((markupLines (some m)).flatMap (Text.pieces '\n')) := by
  obtain ⟨ls, last, hm⟩ := (List.eq_nil_or_concat (Text.pieces '\n' (Text.trimEnd m))).resolve_left
    (Text.pieces_ne_nil _ _)
  rw [List.concat_eq_append] at hm
  have hls : ∀ line ∈ ls, line ≠ fenceClosing := by
    intro line hline
    apply h
    apply Text.mem_pieces_of_mem_dropLast (Text.trimEnd_isPrefix m)
    rw [hm, List.dropLast_concat]
    exact hline
  have hopen : Text.pieces '\n' fenceOpening = [fenceOpening] := Text.pieces_of_not_mem (by decide)
  have hclose : Text.pieces '\n' fenceClosing = [fenceClosing] := Text.pieces_of_not_mem (by decide)
  have hlines : (markupLines (some m)).flatMap (Text.pieces '\n') =
      Text.pieces '\n' fenceOpening ++ (Text.pieces '\n' (Text.trimEnd m) ++
        (Text.pieces '\n' fenceClosing ++ [[]])) := rfl
  rw [hlines, hopen, hclose, hm]
  exact passed_fence hls

theorem passed_markupLines {markup : Option Text} (h : ∀ m ∈ markup, Fenceable m) :
    Passed ((markupLines markup).flatMap (Text.pieces '\n')) := by
  cases markup with
  | none => exact passed_nil
  | some m => exact passed_markup (h m rfl)

theorem passed_paragraph {t : Text} (h : Quiet t) :
    Passed ([t, []].flatMap (Text.pieces '\n')) := by
  exact (passed_of_quiet_lines h).append passed_blank

theorem ne_fenceOpening {c : Char} (h : some c ≠ fenceOpening.head?) (rest : Text) :
    c :: rest ≠ fenceOpening := by
  intro he
  exact h (congrArg List.head? he)

theorem quiet_cons {c : Char} (hmark : c ≠ '#') (hfence : some c ≠ fenceOpening.head?)
    (rest : Text) : ¬ ['#'] <+: c :: rest ∧ c :: rest ≠ fenceOpening := by
  refine ⟨?_, ne_fenceOpening hfence rest⟩
  simpa using Ne.symm hmark

theorem newline_not_mem_parameterLine {p : Text × Value} (hkey : '\n' ∉ p.1)
    (hvalue : '\n' ∉ p.2.read) : '\n' ∉ parameterLine p := by
  obtain ⟨key, v⟩ := p
  have hfront : '\n' ∉ "* `@".toList := by decide
  cases v with
  | flag =>
    have hback : '\n' ∉ "`".toList := by decide
    change '\n' ∉ "* `@".toList ++ key ++ "`".toList
    rw [List.mem_append, List.mem_append, not_or, not_or]
    exact ⟨⟨hfront, hkey⟩, hback⟩
  | text t =>
    have hback : '\n' ∉ "` ".toList := by decide
    change '\n' ∉ "* `@".toList ++ key ++ "` ".toList ++ t
    rw [List.mem_append, List.mem_append, List.mem_append, not_or, not_or, not_or]
    exact ⟨⟨⟨hfront, hkey⟩, hback⟩, hvalue⟩

theorem passed_parameterLines {ps : Parameters}
    (h : ∀ p ∈ ps.entries, '\n' ∉ p.1 ∧ '\n' ∉ p.2.read) :
    Passed ((parameterLines ps).flatMap (Text.pieces '\n')) := by
  have hline : ∀ line ∈ parameterLines ps,
      '\n' ∉ line ∧ ¬ ['#'] <+: line ∧ line ≠ fenceOpening := by
    intro line hline
    unfold parameterLines at hline
    split at hline
    · simp at hline
    · rcases List.mem_append.mp hline with hline | hline
      · obtain ⟨p, hp, rfl⟩ := List.mem_map.mp hline
        obtain ⟨hkey, hvalue⟩ := h p (List.mem_filter.mp hp).1
        have hstar : ∃ rest, parameterLine p = '*' :: rest := by
          obtain ⟨key, _ | t⟩ := p <;> exact ⟨_, rfl⟩
        obtain ⟨rest, hrest⟩ := hstar
        refine ⟨newline_not_mem_parameterLine hkey hvalue, ?_⟩
        rw [hrest]
        exact quiet_cons (by decide) (by decide) rest
      · obtain rfl := List.mem_singleton.mp hline
        decide
  rw [Text.flatMap_pieces_of_not_mem fun line hl => (hline line hl).1]
  exact passed_of_quiet_lines fun line hl => (hline line hl).2

end Outline

/-- A record whose words do not look like parts of the outline. -/
structure Record.Plain (r : Record) : Prop where
  parameters : ∀ p ∈ r.parameters.entries, '\n' ∉ p.1 ∧ '\n' ∉ p.2.read
  description : Outline.Quiet r.description
  markup : ∀ m ∈ r.markup, Outline.Fenceable m

structure TreeEntry.Plain (e : TreeEntry) : Prop where
  id : '\n' ∉ e.id
  title : ∀ t ∈ e.title, '\n' ∉ t
  description : ∀ t ∈ e.description, Outline.Quiet t
  markup : ∀ m ∈ e.markup, Outline.Fenceable m

def Document.Plain : Document → Prop
  | .catalogue c => ∀ bucket ∈ c.entries, '\n' ∉ bucket.1 ∧
    ∀ e ∈ bucket.2, e.record.Plain ∧ ∀ m ∈ e.modifiers, m.Plain
  | .tree root => ∀ n ∈ Tree.preorderAll 1 root.children,
    '\n' ∉ n.2.key ∧ ∀ e ∈ n.2.entry, e.Plain

namespace Section

def heading (s : Section) : Heading := ⟨s.level, s.title, s.indexDepth⟩

structure Plain (s : Section) : Prop where
  level : 0 < s.level
  title : '\n' ∉ s.title
  content : Outline.Passed (s.content.flatMap (Text.pieces '\n'))

theorem pieces_headingLine (level : Nat) {title : Text} (h : '\n' ∉ title) :
    Text.pieces '\n' (headingLine level title) =
      [List.replicate level '#' ++ ' ' :: title, []] := by
  rw [headingLine, Text.pieces_append_cons]
  · rfl
  · simp [h]

theorem Plain.headingLines {s : Section} (h : s.Plain) (rest : List Text) :
    Outline.headingLines false (s.lines.flatMap (Text.pieces '\n') ++ rest) =
      s.heading.line :: Outline.headingLines false rest := by
  obtain ⟨n, hn⟩ := Nat.exists_eq_succ_of_ne_zero (Nat.ne_of_gt h.level)
  have hline : s.heading.line = '#' :: (List.replicate n '#' ++ ' ' :: s.title) := by
    simp [Heading.line, heading, hn, List.replicate_succ]
  have hlines : s.lines.flatMap (Text.pieces '\n') ++ rest =
      s.heading.line :: ([[]] ++ (s.content.flatMap (Text.pieces '\n') ++ rest)) := by
    rw [lines, List.flatMap_cons, pieces_headingLine s.level h.title]
    rfl
  rw [hlines, Outline.headingLines, if_neg, if_pos, Outline.passed_blank, h.content]
  · rw [hline]
    rfl
  · rw [hline]
    exact Outline.ne_fenceOpening (by decide) _

end Section

namespace Outline

theorem headingLines_sections {sections : List Section} (h : ∀ s ∈ sections, s.Plain)
    (rest : List Text) :
    headingLines false ((sections.flatMap Section.lines).flatMap (Text.pieces '\n') ++ rest) =
      sections.map (fun s => s.heading.line) ++ headingLines false rest := by
  induction sections with
  | nil => rfl
  | cons s sections ih =>
    rw [List.flatMap_cons, List.flatMap_append, List.append_assoc,
      (h s List.mem_cons_self).headingLines, ih fun t ht => h t (List.mem_cons_of_mem _ ht),
      List.map_cons, List.cons_append]

theorem newline_not_mem_recordTitle {r : Record} (h : r.Plain) : '\n' ∉ recordTitle r := by
  rw [recordTitle, Record.param?]
  cases hname : r.parameters.get? "name".toList with
  | none => decide
  | some v => exact (h.parameters _ (Dict.get?_eq_some_iff.mp hname)).2

theorem plain_recordSection {r : Record} (h : r.Plain) {level : Nat} (hlevel : 0 < level)
    (depth : Option Nat) : (recordSection level depth r).Plain := by
  refine ⟨hlevel, newline_not_mem_recordTitle h, ?_⟩
  have hparagraph : Passed ((paragraph r.description).flatMap (Text.pieces '\n')) := by
    rw [paragraph]
    split_ifs
    · exact passed_nil
    · exact passed_paragraph h.description
  simp only [recordSection, List.flatMap_append]
  exact (hparagraph.append (passed_parameterLines h.parameters)).append
    (passed_markupLines h.markup)

theorem passed_idLine {id : Text} (h : '\n' ∉ id) :
    Passed (Text.pieces '\n' ("`".toList ++ id ++ "`\n".toList)) := by
  have hsplit : "`".toList ++ id ++ "`\n".toList = ('\x60' :: id ++ ['\x60']) ++ '\n' :: [] :=
    (List.append_assoc ('\x60' :: id) ['\x60'] ['\n']).symm
  rw [hsplit, Text.pieces_append_cons (by simp [h])]
  apply passed_of_quiet_lines
  intro line hline
  rcases List.mem_cons.mp hline with rfl | hline
  · refine ⟨by simp, fun hfence => ?_⟩
    have hlast := congrArg List.getLast? hfence
    rw [List.getLast?_concat] at hlast
    exact absurd hlast (by decide)
  · obtain rfl := List.mem_singleton.mp hline
    decide

theorem passed_entryLines {entry : Option TreeEntry} (h : ∀ e ∈ entry, e.Plain) :
    Passed ((entryLines entry).flatMap (Text.pieces '\n')) := by
  cases entry with
  | none => exact passed_nil
  | some e =>
    obtain ⟨id, title, description, markup⟩ := e
    obtain ⟨hid, _, hdescription, hmarkup⟩ := h _ rfl
    cases description with
    | none => exact (passed_idLine hid).append (passed_markupLines hmarkup)
    | some t =>
      have hlines : (entryLines (some ⟨id, title, some t, markup⟩)).flatMap (Text.pieces '\n') =
          Text.pieces '\n' ("`".toList ++ id ++ "`\n".toList) ++
            ([t, []].flatMap (Text.pieces '\n') ++
              (markupLines markup).flatMap (Text.pieces '\n')) := by
        rw [← List.flatMap_append]
        rfl
      rw [hlines]
      exact (passed_idLine hid).append
        ((passed_paragraph (hdescription t rfl)).append (passed_markupLines hmarkup))

def nodeSection (n : Nat × Tree) : Section :=
  ⟨min (n.1 + 1) 6, nodeTitle n.2.key n.2.entry, some (n.1 - 1), entryLines n.2.entry⟩

mutual

theorem nodeSections_eq (depth : Nat) (t : Tree) :
    nodeSections depth t = (Tree.preorder (depth + 1) t).map nodeSection := by
  match t with
  | .node k e cs =>
    rw [nodeSections, Tree.preorder, List.map_cons, forestSections_eq (depth + 1) cs]
    rfl

theorem forestSections_eq (depth : Nat) (ts : List Tree) :
    forestSections depth ts = (Tree.preorderAll (depth + 1) ts).map nodeSection := by
  match ts with
  | [] => rfl
  | t :: ts =>
    rw [forestSections, Tree.preorderAll, List.map_append, nodeSections_eq depth t,
      forestSections_eq depth ts]

end

theorem plain_nodeSection {n : Nat × Tree} (hkey : '\n' ∉ n.2.key)
    (hentry : ∀ e ∈ n.2.entry, e.Plain) : (nodeSection n).Plain := by
  have hlevel : 0 < (nodeSection n).level := Nat.lt_min.mpr ⟨by omega, by omega⟩
  refine ⟨hlevel, ?_, passed_entryLines hentry⟩
  change '\n' ∉ (n.2.entry.bind TreeEntry.title).getD n.2.key
  cases htitle : n.2.entry.bind TreeEntry.title with
  | none => exact hkey
  | some t =>
    obtain ⟨e, he, ht⟩ := Option.bind_eq_some_iff.mp htitle
    exact (hentry e he).title t ht

theorem pieces_joinEnded {ls : List Text} (h : ls ≠ []) :
    ∃ tail, Passed tail ∧
      Text.pieces '\n' (joinEnded ls) = ls.flatMap (Text.pieces '\n') ++ tail := by
  unfold joinEnded
  dsimp only
  split
  · exact ⟨[], passed_nil, by rw [Text.pieces_joinLines_flatMap h, List.append_nil]⟩
  · exact ⟨[], passed_nil, by rw [Text.pieces_joinLines_flatMap h, List.append_nil]⟩
  · refine ⟨[[]], passed_blank, ?_⟩
    rw [Text.pieces_append_sep, Text.pieces_joinLines_flatMap h]
    rfl

theorem quiet_indexItem {title anchor : Text} (htitle : '\n' ∉ title) (hanchor : '\n' ∉ anchor)
    (depth : Nat) :
    '\n' ∉ indexItem title anchor depth ∧ indexItem title anchor depth ≠ [] ∧
      ¬ ['#'] <+: indexItem title anchor depth ∧ indexItem title anchor depth ≠ fenceOpening := by
  have hfront : ∃ c rest, indexItem title anchor depth = c :: rest ∧ c ≠ '#' ∧
      some c ≠ fenceOpening.head? := by
    cases depth with
    | zero => exact ⟨'*', _, rfl, by decide, by decide⟩
    | succ depth => exact ⟨' ', _, rfl, by decide, by decide⟩
  constructor
  · have hopen : '\n' ∉ "* [".toList := by decide
    have hmiddle : '\n' ∉ "](#".toList := by decide
    change '\n' ∉ List.replicate (2 * depth) ' ' ++ "* [".toList ++ title ++ "](#".toList ++
      anchor ++ [')']
    rw [List.mem_append, List.mem_append, List.mem_append, List.mem_append, List.mem_append]
    simp only [not_or]
    exact ⟨⟨⟨⟨⟨by simp, hopen⟩, htitle⟩, hmiddle⟩, hanchor⟩, by decide⟩
  · obtain ⟨c, rest, hitem, hmark, hfence⟩ := hfront
    rw [hitem]
    exact ⟨by simp, quiet_cons hmark hfence rest⟩

end Outline

namespace Document

theorem map_heading_sections (d : Document) : d.sections.map Section.heading = d.headings := by
  cases d with
  | catalogue c =>
    simp only [sections, headings, List.map_flatMap, Outline.categorySections,
      Outline.entrySections, List.map_cons, List.map_map]
    rfl
  | tree root =>
    rw [sections, Outline.forestSections_eq, List.map_map]
    rfl

theorem Plain.sections {d : Document} (h : d.Plain) : ∀ s ∈ d.sections, s.Plain := by
  intro s hs
  cases d with
  | catalogue c =>
    obtain ⟨bucket, hbucket, hs⟩ := List.mem_flatMap.mp hs
    obtain ⟨hcategory, hentries⟩ := h bucket hbucket
    rcases List.mem_cons.mp hs with rfl | hs
    · exact ⟨Nat.two_pos, hcategory, Outline.passed_nil⟩
    · obtain ⟨e, he, hs⟩ := List.mem_flatMap.mp hs
      obtain ⟨hrecord, hmodifiers⟩ := hentries e he
      rcases List.mem_cons.mp hs with rfl | hs
      · exact Outline.plain_recordSection hrecord (by decide) _
      · obtain ⟨m, hm, rfl⟩ := List.mem_map.mp hs
        exact Outline.plain_recordSection (hmodifiers m hm) (by decide) _
  | tree root =>
    rw [Document.sections, Outline.forestSections_eq] at hs
    obtain ⟨n, hn, rfl⟩ := List.mem_map.mp hs
    obtain ⟨hkey, hentry⟩ := h n hn
    exact Outline.plain_nodeSection hkey hentry

end Document

namespace Outline

/-- The lines of the index: from the third line of an outline up to the next empty one. -/
def listed (ls : List Text) : List Text := (ls.drop 2).takeWhile (· ≠ [])

/-- The anchors of the sections, behind the one that the index takes. -/
def sectionAnchors (sections : List Section) : List Text :=
  Anchors.assign (Anchors.next indexTitle {}).2 (sections.map Section.title)

theorem quiet_indexLines {sections : List Section} (h : ∀ s ∈ sections, s.Plain) :
    ∀ line ∈ indexLines sections (sectionAnchors sections), '\n' ∉ line ∧ line ≠ [] ∧
      ¬ ['#'] <+: line ∧ line ≠ fenceOpening := by
  intro line hline
  obtain ⟨⟨s, anchor⟩, hmem, hitem⟩ := List.mem_filterMap.mp hline
  obtain ⟨depth, _, rfl⟩ := Option.map_eq_some_iff.mp hitem
  obtain ⟨hs, hanchor⟩ := List.of_mem_zip hmem
  exact quiet_indexItem (h s hs).title (Anchors.newline_not_mem_assign anchor hanchor) depth

theorem pieces_ofSections {sections : List Section} (hne : sections ≠ [])
    (h : ∀ s ∈ sections, s.Plain) :
    ∃ tail, Passed tail ∧ Text.pieces '\n' (ofSections sections) =
      "## Index".toList :: ([[]] ++ (indexLines sections (sectionAnchors sections) ++
        ([[]] ++ ((sections.flatMap Section.lines).flatMap (Text.pieces '\n') ++ tail)))) := by
  have hlines : outlineLines sections = Section.headingLine 2 indexTitle ::
      (indexLines sections (sectionAnchors sections) ++ [] :: sections.flatMap Section.lines) := rfl
  have htitle : Text.pieces '\n' (Section.headingLine 2 indexTitle) = ["## Index".toList, []] :=
    Section.pieces_headingLine 2 (by decide)
  have hlines_ne : outlineLines sections ≠ [] := List.cons_ne_nil _ _
  obtain ⟨tail, htail, hpieces⟩ := pieces_joinEnded hlines_ne
  refine ⟨tail, htail, ?_⟩
  rw [ofSections, if_neg (by simpa using hne), hpieces, hlines, List.flatMap_cons,
    List.flatMap_append, List.flatMap_cons, htitle,
    Text.flatMap_pieces_of_not_mem fun line hl => (quiet_indexLines h line hl).1]
  simp only [Text.pieces, List.cons_append, List.nil_append, List.append_assoc]

theorem headingLines_ofSections {sections : List Section} (hne : sections ≠ [])
    (h : ∀ s ∈ sections, s.Plain) :
    headingLines false (Text.pieces '\n' (ofSections sections)) =
      "## Index".toList :: sections.map fun s => s.heading.line := by
  obtain ⟨tail, htail, hpieces⟩ := pieces_ofSections hne h
  have hindex := passed_of_quiet_lines fun line hl => (quiet_indexLines h line hl).2.2
  have hend : headingLines false tail = [] := by
    have hnil := htail []
    rw [List.append_nil] at hnil
    exact hnil
  rw [hpieces, headingLines, if_neg (by decide), if_pos (by decide), passed_blank, hindex,
    passed_blank, headingLines_sections h, hend, List.append_nil]

theorem listed_ofSections {sections : List Section} (hne : sections ≠ [])
    (h : ∀ s ∈ sections, s.Plain) :
    listed (Text.pieces '\n' (ofSections sections)) =
      indexLines sections (sectionAnchors sections) := by
  obtain ⟨tail, _, hpieces⟩ := pieces_ofSections hne h
  rw [hpieces, listed]
  simp only [List.singleton_append, List.drop_succ_cons, List.drop_zero]
  rw [List.takeWhile_append_of_pos fun line hl => by simpa using (quiet_indexLines h line hl).2.1]
  simp

end Outline

/-- The index of an outline links to the headings that stand in its text. -/
theorem Document.index_links_headings (d : Document) (h : d.Plain) (hne : d.renderMarkdown ≠ []) :
    let ls := Text.pieces '\n' d.renderMarkdown
    let collected := Outline.headingLines false ls
    let anchors := Anchors.assign {} (collected.map Heading.textOf)
    collected = "## Index".toList :: d.headings.map Heading.line ∧
      anchors.length = d.headings.length + 1 ∧
      Outline.listed ls = (d.headings.zip anchors.tail).filterMap fun (heading, anchor) =>
        heading.depth.map fun depth => indexItem heading.text anchor depth := by
  intro ls collected anchors
  have hsections : d.sections ≠ [] := by
    intro hnil
    apply hne
    rw [renderMarkdown, hnil]
    rfl
  have hcollected : collected = "## Index".toList :: d.headings.map Heading.line := by
    rw [← d.map_heading_sections, List.map_map]
    exact Outline.headingLines_ofSections hsections h.sections
  have htexts : collected.map Heading.textOf =
      Outline.indexTitle :: d.sections.map Section.title := by
    have hback : (Heading.textOf ∘ Heading.line) ∘ Section.heading = Section.title := by
      funext s
      exact Heading.textOf_line s.heading
    have hfirst : Heading.textOf "## Index".toList = Outline.indexTitle := by decide
    rw [hcollected, List.map_cons, hfirst, ← d.map_heading_sections, List.map_map, List.map_map,
      hback]
  have hanchors : anchors.tail = Outline.sectionAnchors d.sections := by
    change (Anchors.assign {} (collected.map Heading.textOf)).tail = _
    rw [htexts]
    rfl
  have hlisted : Outline.listed ls =
      Outline.indexLines d.sections (Outline.sectionAnchors d.sections) :=
    Outline.listed_ofSections hsections h.sections
  refine ⟨hcollected, ?_, ?_⟩
  · rw [Anchors.length_assign, List.length_map, hcollected, List.length_cons, List.length_map]
  · rw [hlisted, hanchors, ← d.map_heading_sections, List.zip_map_left, List.filterMap_map]
    rfl

/-- Its category is named like the index, a modifier shares the slug of the next record, and the
markup holds a line with a number sign and closes its own fence. -/
def Document.guide : Document := .catalogue ⟨[("Index".toList, [
  ⟨{ description := "Wide\n```\n  # 2".toList
     parameters := .ofList [("name".toList, .text "A b".toList), ("wide".toList, .flag)]
     markup := some "<a>\n# 1\n```  \n".toList
     sourcePath := [] },
    [{ parameters := .ofList [("name".toList, .text "#A! B".toList)], sourcePath := [] }]⟩,
  ⟨{ parameters := .ofList [("name".toList, .text "a B".toList)], sourcePath := [] }, []⟩])],
  by decide⟩

theorem Document.index_links_headings_guide :
    guide.Plain ∧ guide.renderMarkdown ≠ [] ∧
      Outline.headingLines false (Text.pieces '\n' guide.renderMarkdown) =
        ["## Index", "## Index", "### A b", "#### #A! B", "### a B"].map String.toList ∧
      Outline.listed (Text.pieces '\n' guide.renderMarkdown) =
        ["* [Index](#index-1)", "  * [A b](#a-b)", "  * [a B](#a-b-2)"].map String.toList := by
  have hplain : guide.Plain := by
    simp only [guide, Plain, List.forall_mem_cons, List.not_mem_nil, false_implies, implies_true,
      and_true]
    exact ⟨by decide, ⟨⟨by decide, by decide, by decide⟩, by decide, by decide, by decide⟩,
      by decide, by decide, by decide⟩
  have hne : guide.renderMarkdown ≠ [] := by decide +kernel
  obtain ⟨hlines, _, hlisted⟩ := guide.index_links_headings hplain hne
  refine ⟨hplain, hne, hlines.trans (by decide), hlisted.trans ?_⟩
  rw [hlines]
  decide +kernel

end StyleGuide
