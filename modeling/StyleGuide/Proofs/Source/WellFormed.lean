import StyleGuide.Proofs.Block.Closing
import StyleGuide.Proofs.Source.Failures

namespace StyleGuide

theorem Block.trim_of_mem_lines_undecorate {raw line : Text}
    (h : line ∈ Text.lines (undecorate raw)) : Text.trim line = line := by
  rw [undecorate_eq_flatMap] at h
  exact trim_of_mem_flatMap_kept (Text.mem_of_mem_lines_joinLines (fun _ => unbroken_kept) h)

namespace Comment

namespace Run

variable {r : Run}

theorem name_of_wellFormed (h : r.wellFormed = true) :
    r.name ≠ [] ∧ ∀ x ∈ r.name, Text.isBlank x = false := by
  constructor
  · rcases r with ⟨_ | ⟨a, _ | ⟨c, rest⟩⟩, body⟩
    · cases h
    · cases h
    · have hc : Text.isBlank c = false := by simpa [wellFormed] using h
      simp [name, hc]
  · intro x hx
    simpa using List.mem_takeWhile_imp hx

theorem exists_line_of_mem_pieces {p : Text} (h : p ∈ r.pieces) :
    p ≠ [] ∧ Text.trim p = p ∧ ∃ line ∈ r.lines, p <:+: line := by
  obtain ⟨hmem, hne⟩ := List.mem_filter.mp h
  obtain ⟨q, hq, rfl⟩ := List.mem_map.mp hmem
  refine ⟨by simpa using hne, Text.trim_trim q, ?_⟩
  rcases List.mem_cons.mp hq with rfl | hq
  · refine ⟨r.head, List.mem_cons_self, (Text.trim_infix _).trans ?_⟩
    exact ((List.dropWhile_suffix _).trans (List.drop_suffix 1 r.head)).isInfix
  · exact ⟨q, List.mem_cons_of_mem _ hq, Text.trim_infix q⟩

theorem text_of_value {t : Text} (h : r.value = .text t)
    (hlines : ∀ line ∈ r.lines, '\n' ∉ line) : t ≠ [] ∧ Text.trim t = t ∧ '\n' ∉ t := by
  have hpieces : ∀ p ∈ r.pieces, (p ≠ [] ∧ Text.trim p = p) ∧ '\n' ∉ p := by
    intro p hp
    obtain ⟨hne, htrim, line, hline, hpart⟩ := exists_line_of_mem_pieces hp
    exact ⟨⟨hne, htrim⟩, fun hmem => hlines line hline (hpart.subset hmem)⟩
  rw [value] at h
  cases hps : r.pieces with
  | nil => simp [hps, ofPieces] at h
  | cons p ps =>
    rw [hps] at h hpieces
    obtain rfl : Text.join [' '] (p :: ps) = t := by simpa [ofPieces] using h
    obtain ⟨hne, htrim⟩ := Text.trim_join fun q hq => (hpieces q hq).1
    exact ⟨hne, htrim, Text.not_mem_join (by decide) fun q hq => (hpieces q hq).2⟩

end Run

theorem exists_runs_of_read {policy : Policy} {t : Text} {reading : Reading} {c : Comment}
    (h : read policy t = .ok reading) (hc : reading.comment = some c) :
    c.isEmpty = false ∧
      ∃ (front : List Text) (rs : List Run), Text.lines t = front ++ rs.flatMap Run.lines ∧
        (∀ line ∈ front, startsParameter line = false) ∧
        c = ⟨Text.trim (Text.joinLines front), Run.parameters rs⟩ := by
  obtain ⟨front, rs, hlines, hfront, hrs⟩ := exists_runs t
  have hdrop := read_eq_of_runs hlines hfront hrs fun _ _ => Or.inl rfl
  have hread : read .drop t = .ok reading := by
    cases policy with
    | drop => exact h
    | reject => exact read_drop_of_read_reject h
  rw [hdrop, Except.ok.injEq] at hread
  rw [← hread] at hc
  dsimp only at hc
  split_ifs at hc with hempty
  obtain rfl := Option.some.inj hc
  exact ⟨by simpa using hempty, front, rs, hlines, hfront, rfl⟩

/-- What a comment read from a source is like. -/
structure WellFormed (dialect : Dialect) (c : Comment) : Prop where
  nonempty : c.description ≠ [] ∨ c.parameters.keys ≠ []
  description : Text.trim c.description = c.description
  names : ∀ name ∈ c.parameters.keys, name ≠ [] ∧ ∀ x ∈ name, Text.isBlank x = false
  texts : ∀ name t, c.parameters.get? name = some (.text t) →
    t ≠ [] ∧ Text.trim t = t ∧ '\n' ∉ t
  lines : dialect = .permissive → ∀ line ∈ Text.pieces '\n' c.description,
    Text.trim line = line ∧ ¬ ['@'] <+: line
  id : dialect = .strict → Source.requiredParameter ∈ c.parameters.keys

section Read

variable {policy : Policy} {t : Text} {reading : Reading} {c : Comment}
  (h : read policy t = .ok reading) (hc : reading.comment = some c)

include h hc

theorem nonempty_of_read : c.description ≠ [] ∨ c.parameters.keys ≠ [] := by
  obtain ⟨hempty, _⟩ := exists_runs_of_read h hc
  by_contra hnone
  simp_all [isEmpty, Dict.isEmpty, Dict.keys]

theorem trim_description_of_read : Text.trim c.description = c.description := by
  obtain ⟨_, front, rs, _, _, rfl⟩ := exists_runs_of_read h hc
  exact Text.trim_trim _

theorem name_of_read {name : Text} (hname : name ∈ c.parameters.keys) :
    name ≠ [] ∧ ∀ x ∈ name, Text.isBlank x = false := by
  obtain ⟨_, front, rs, _, _, rfl⟩ := exists_runs_of_read h hc
  obtain ⟨r, _, hwf, rfl⟩ := (Run.mem_keys_parameters rs name).mp hname
  exact Run.name_of_wellFormed hwf

theorem text_of_read {name s : Text} (hs : c.parameters.get? name = some (.text s)) :
    s ≠ [] ∧ Text.trim s = s ∧ '\n' ∉ s := by
  obtain ⟨_, front, rs, hlines, _, rfl⟩ := exists_runs_of_read h hc
  rw [Run.get?_parameters, Option.map_eq_some_iff] at hs
  obtain ⟨r, hr, hvalue⟩ := hs
  have hmem : r ∈ rs := by
    have hfound := List.mem_of_find?_eq_some hr
    rw [List.mem_reverse] at hfound
    exact List.mem_of_mem_filter hfound
  apply Run.text_of_value hvalue
  intro line hline
  apply Text.newline_not_mem_lines t
  rw [hlines]
  exact List.mem_append_right _ (List.mem_flatMap.mpr ⟨r, hmem, hline⟩)

theorem description_lines_of_read (htrim : ∀ line ∈ Text.lines t, Text.trim line = line) :
    ∀ line ∈ Text.pieces '\n' c.description, Text.trim line = line ∧ ¬ ['@'] <+: line := by
  obtain ⟨_, front, rs, hlines, hfront, rfl⟩ := exists_runs_of_read h hc
  have hsub : ∀ line ∈ front, line ∈ Text.lines t := by
    intro line hline
    rw [hlines]
    exact List.mem_append_left _ hline
  -- No line has blanks at its ends, so the trim takes away whole lines.
  obtain ⟨ms, hms, hjoin⟩ := Text.exists_infix_trim fun line hline => htrim line (hsub line hline)
  intro line hline
  dsimp only at hline
  rw [hjoin] at hline
  by_cases hnil : ms = []
  · subst hnil
    obtain rfl : line = [] := by simpa [Text.joinLines, Text.join, Text.pieces] using hline
    exact ⟨rfl, by simp⟩
  · rw [Text.pieces_joinLines hnil] at hline
    · have hmem := hms.subset hline
      refine ⟨htrim line (hsub line hmem), ?_⟩
      rintro ⟨rest, rfl⟩
      exact absurd (hfront _ hmem) (by simp [startsParameter])
    · intro l hl
      exact Text.newline_not_mem_lines t l (hsub l (hms.subset hl))

theorem WellFormed.of_read {dialect : Dialect}
    (htrim : dialect = .permissive → ∀ line ∈ Text.lines t, Text.trim line = line)
    (hid : dialect = .strict → Source.requiredParameter ∈ c.parameters.keys) :
    c.WellFormed dialect where
  nonempty := nonempty_of_read h hc
  description := trim_description_of_read h hc
  names _ := name_of_read h hc
  texts _ _ := text_of_read h hc
  lines hd := description_lines_of_read h hc (htrim hd)
  id := hid

end Read

end Comment

namespace Source

variable {dialect : Dialect} {path : Path} {c : Comment}

theorem some_mem_of_forall₂ {bs : List Block} {ocs : List (Option Comment)}
    (h : List.Forall₂ (fun b oc => (readBlock dialect path b).result = .ok oc) bs ocs)
    (hc : c ∈ ocs.filterMap id) : ∃ b, (readBlock dialect path b).result = .ok (some c) := by
  induction h with
  | nil => cases hc
  | @cons b oc bs ocs hb _ ih =>
    cases oc with
    | none => exact ih hc
    | some d =>
      rcases List.mem_cons.mp hc with rfl | hc
      · exact ⟨b, hb⟩
      · exact ih hc

theorem wellFormed_of_readBlock_permissive {b : Block}
    (h : (readBlock .permissive path b).result = .ok (some c)) : c.WellFormed .permissive := by
  obtain ⟨reading, hread, hc⟩ := readComment_eq_ok_iff.mp h
  exact .of_read hread hc (fun _ _ => Block.trim_of_mem_lines_undecorate) (by rintro ⟨⟩)

theorem wellFormed_of_readBlock_strict {b : Block}
    (h : (readBlock .strict path b).result = .ok (some c)) : c.WellFormed .strict := by
  cases ht : b.undecorateStrict? with
  | none =>
    simp only [readBlock, ht] at h
    cases h
  | some t =>
    obtain ⟨reading, hread, hc⟩ := comment_of_readBlock_strict ht h
    refine .of_read hread hc (by rintro ⟨⟩) fun _ => ?_
    by_contra hid
    have hlines := Comment.find?_nameless_of_read_reject hread
    have hfault : Fault path b _ := .missing ht (by simpa using hlines) hread hc hid
    exact exists_readBlock_strict_iff.mp ⟨some c, h⟩ _ hfault

/-- Every comment of a source is well formed. -/
theorem wellFormed_of_read (dialect : Dialect) (path : Path) (source : Text) (comments : List Comment)
    (h : (read dialect path source).result = .ok comments) :
    ∀ c ∈ comments, c.WellFormed dialect := by
  intro c hc
  obtain ⟨ocs, hocs, rfl⟩ := read_eq_ok_iff.mp h
  obtain ⟨b, hb⟩ := some_mem_of_forall₂ hocs hc
  cases dialect with
  | permissive => exact wellFormed_of_readBlock_permissive hb
  | strict => exact wellFormed_of_readBlock_strict hb

def indented : Text :=
  "/**\r\n *   Keys\u2003\n * \n *  down.\n * @id\n * \n *  a \n *b\r\n */".toList

theorem wellFormed_of_read_indented :
    (read .permissive (Text.bytes "a.css".toList) indented).result =
        .ok [⟨"Keys\n\ndown.".toList, .ofList [("id".toList, .text "a b".toList)]⟩] ∧
      Comment.WellFormed .permissive
        ⟨"Keys\n\ndown.".toList, .ofList [("id".toList, .text "a b".toList)]⟩ ∧
      (read .strict (Text.bytes "a.css".toList) indented).result =
        .ok [⟨"Keys\n\n down.".toList, .ofList [("id".toList, .text "a b".toList)]⟩] ∧
      Comment.WellFormed .strict
        ⟨"Keys\n\n down.".toList, .ofList [("id".toList, .text "a b".toList)]⟩ := by
  have hpermissive : (read .permissive (Text.bytes "a.css".toList) indented).result =
      .ok [⟨"Keys\n\ndown.".toList, .ofList [("id".toList, .text "a b".toList)]⟩] := by
    decide +kernel
  have hstrict : (read .strict (Text.bytes "a.css".toList) indented).result =
      .ok [⟨"Keys\n\n down.".toList, .ofList [("id".toList, .text "a b".toList)]⟩] := by
    decide +kernel
  exact ⟨hpermissive, wellFormed_of_read _ _ _ _ hpermissive _ List.mem_cons_self,
    hstrict, wellFormed_of_read _ _ _ _ hstrict _ List.mem_cons_self⟩

end Source

end StyleGuide
