import StyleGuide.Proofs.Block.Printing
import StyleGuide.Proofs.Comment.Runs
import StyleGuide.Source

namespace StyleGuide

@[simp] theorem Outcome.pure_eq {α : Type} (a : α) : (pure a : Outcome α) = ⟨[], .ok a⟩ := rfl

def Value.Canonical : Value → Prop
  | flag => True
  | text t => t ≠ [] ∧ Text.trim t = t ∧ '\n' ∉ t ∧ ¬ Block.closing <:+: t

instance (v : Value) : Decidable v.Canonical :=
  match v with
  | .flag => .isTrue trivial
  | .text t =>
    inferInstanceAs (Decidable (t ≠ [] ∧ Text.trim t = t ∧ '\n' ∉ t ∧ ¬ Block.closing <:+: t))

namespace Comment

/-- A comment that can be printed so that it is read back as it is. -/
structure Canonical (c : Comment) : Prop where
  description : Text.trim c.description = c.description
  lines : ∀ line ∈ Text.pieces '\n' c.description, Text.trim line = line ∧ ¬ ['@'] <+: line ∧
    ¬ ['/', '*'] <+: line ∧ ¬ Block.closing <:+: line
  names : ∀ name ∈ c.parameters.keys,
    name ≠ [] ∧ name.any Text.isBlank = false ∧ ¬ Block.closing <:+: name
  values : ∀ p ∈ c.parameters.entries, p.2.Canonical
  nonempty : c.isEmpty = false
  id : c.parameters.contains Source.requiredParameter = true

def parameterLine (p : Text × Value) : Text :=
  '@' :: p.1 ++ match p.2 with
    | .flag => []
    | .text t => ' ' :: t

/-- One way to print a comment, and the text up to the next one. An empty description takes one
blank line or none. -/
structure Printed where
  comment : Comment
  lines : List Text
  order : List (Text × Value)
  gap : Text
  canonical : comment.Canonical
  joined : Text.joinLines lines = comment.description
  unbroken : ∀ line ∈ lines, '\n' ∉ line
  perm : order.Perm comment.parameters.entries
  quiet : ¬ Block.opening <:+: gap

namespace Printed

def content (w : Printed) : List Text := w.lines ++ w.order.map parameterLine

def block (w : Printed) : Text := Block.print w.content

theorem mem_pieces (w : Printed) {line : Text} (h : line ∈ w.lines) :
    line ∈ Text.pieces '\n' w.comment.description := by
  rw [← w.joined, Text.pieces_joinLines (List.ne_nil_of_mem h) w.unbroken]
  exact h

theorem mem_entries (w : Printed) {p : Text × Value} (h : p ∈ w.order) :
    p ∈ w.comment.parameters.entries := w.perm.mem_iff.mp h

theorem name_canonical (w : Printed) {p : Text × Value} (h : p ∈ w.order) :
    p.1 ≠ [] ∧ (∀ x ∈ p.1, Text.isBlank x = false) ∧ ¬ Block.closing <:+: p.1 := by
  simpa using w.canonical.names p.1 (List.mem_map_of_mem (w.mem_entries h))

theorem order_ne_nil (w : Printed) : w.order ≠ [] := by
  intro hnil
  have hid := Dict.contains_iff.mp w.canonical.id
  have hentries : w.comment.parameters.entries = [] := by
    have hperm := w.perm
    rw [hnil] at hperm
    exact hperm.nil_eq.symm
  simp [Dict.keys, hentries] at hid

end Printed

section ParameterLine

variable {name : Text} (hne : name ≠ []) (hblank : ∀ x ∈ name, Text.isBlank x = false)

include hne hblank in
theorem trim_parameterLine {v : Value} (hv : v.Canonical) :
    Text.trim (parameterLine (name, v)) = parameterLine (name, v) := by
  have hstart : Text.trimStart (parameterLine (name, v)) = parameterLine (name, v) :=
    Text.trimStart_cons rfl _
  rw [Text.trim, hstart]
  cases v with
  | flag =>
    simpa [parameterLine] using
      Text.trimEnd_append hne (Text.trimEnd_of_not_blank hblank) ['@']
  | text t =>
    simpa [parameterLine] using
      Text.trimEnd_append hv.1 (Text.trimEnd_of_trim hv.2.1) ('@' :: name ++ [' '])

include hne hblank in
theorem content_parameterLine {v : Value} (hclose : ¬ Block.closing <:+: name)
    (hv : v.Canonical) : Block.Content (parameterLine (name, v)) := by
  have hname : '\n' ∉ name := fun h => absurd (hblank _ h) (by decide)
  refine ⟨trim_parameterLine hne hblank hv, ?_, by simp [parameterLine], ?_⟩
  · cases v with
    | flag => simp [parameterLine, hname]
    | text t => simp [parameterLine, hname, hv.2.2.1]
  · have hat : parameterLine (name, v) = [] ++ '@' :: (parameterLine (name, v)).tail := rfl
    rw [hat, Text.infix_append_cons (by decide), not_or]
    refine ⟨by decide, ?_⟩
    cases v with
    | flag => simpa [parameterLine] using hclose
    | text t =>
      simp only [parameterLine, List.cons_append, List.tail_cons]
      rw [Text.infix_append_cons (by decide), not_or]
      exact ⟨hclose, hv.2.2.2⟩

def parameterRun (p : Text × Value) : Run := ⟨parameterLine p, []⟩

theorem parameterRun_proper (p : Text × Value) : (parameterRun p).Proper :=
  ⟨rfl, by simp [parameterRun]⟩

include hne hblank in
theorem parameterRun_wellFormed (v : Value) : (parameterRun (name, v)).wellFormed = true := by
  obtain ⟨x, rest, rfl⟩ := List.exists_cons_of_ne_nil hne
  simp [parameterRun, parameterLine, Run.wellFormed, hblank x List.mem_cons_self]

include hblank in
theorem parameterRun_name (v : Value) : (parameterRun (name, v)).name = name := by
  have hname : ∀ x ∈ name, (!Text.isBlank x) = true := fun x hx => by simp [hblank x hx]
  have hspace : Text.isBlank ' ' = true := rfl
  cases v with
  | flag => simpa [parameterRun, parameterLine, Run.name] using hblank
  | text t =>
    simp [parameterRun, parameterLine, Run.name, List.takeWhile_append_of_pos hname, hspace]

include hblank in
theorem parameterRun_value {v : Value} (hv : v.Canonical) : (parameterRun (name, v)).value = v := by
  have hname : ∀ x ∈ name, (!Text.isBlank x) = true := fun x hx => by simp [hblank x hx]
  have hspace : Text.isBlank ' ' = true := rfl
  cases v with
  | flag =>
    have hrest : name.dropWhile (!Text.isBlank ·) = [] := by simpa using hblank
    simp [parameterRun, parameterLine, Run.value, Run.pieces, hrest, ofPieces]
  | text t =>
    have hrest : (name ++ ' ' :: t).dropWhile (!Text.isBlank ·) = ' ' :: t := by
      simp [List.dropWhile_append_of_pos hname, hspace]
    have htrim : Text.trim (' ' :: t) = t := (Text.trim_blank rfl t).trans hv.2.1
    simp [parameterRun, parameterLine, Run.value, Run.pieces, hrest, htrim, hv.1, ofPieces,
      Text.join]

end ParameterLine

theorem startsParameter_eq_false {line : Text} (h : ¬ ['@'] <+: line) :
    startsParameter line = false := by
  unfold startsParameter
  split
  · exact absurd ⟨_, rfl⟩ h
  · rfl

namespace Printed

theorem content_mem (w : Printed) : ∀ line ∈ w.content, Block.Content line := by
  intro line hline
  rcases List.mem_append.mp hline with hline | hline
  · obtain ⟨htrim, _, hslash, hclose⟩ := w.canonical.lines line (w.mem_pieces hline)
    exact ⟨htrim, w.unbroken line hline, hslash, hclose⟩
  · obtain ⟨p, hp, rfl⟩ := List.mem_map.mp hline
    obtain ⟨hne, hblank, hclose⟩ := w.name_canonical hp
    exact content_parameterLine hne hblank hclose (w.canonical.values p (w.mem_entries hp))

theorem lines_content (w : Printed) : Text.lines (Text.joinLines w.content) = w.content := by
  apply Text.lines_joinLines
  · intro line hline
    have h := w.content_mem line hline
    exact Text.Unbroken.of_trim h.trimmed h.newline
  · obtain ⟨ps, p, hps⟩ := (List.eq_nil_or_concat w.order).resolve_left w.order_ne_nil
    simp [content, hps, parameterLine]

theorem wellFormed_runs (w : Printed) : ∀ r ∈ w.order.map parameterRun, r.wellFormed = true := by
  intro r hr
  obtain ⟨p, hp, rfl⟩ := List.mem_map.mp hr
  obtain ⟨hne, hblank, _⟩ := w.name_canonical hp
  exact parameterRun_wellFormed hne hblank p.2

theorem parameters_runs (w : Printed) :
    Run.parameters (w.order.map parameterRun) = w.comment.parameters := by
  have hwf : (w.order.map parameterRun).filter Run.wellFormed = w.order.map parameterRun :=
    List.filter_eq_self.mpr w.wellFormed_runs
  have hback : (w.order.map parameterRun).map (fun r => (r.name, r.value)) = w.order := by
    rw [List.map_map]
    refine (List.map_congr_left fun p hp => ?_).trans (List.map_id w.order)
    obtain ⟨_, hblank, _⟩ := w.name_canonical hp
    exact Prod.ext (parameterRun_name hblank p.2)
      (parameterRun_value hblank (w.canonical.values p (w.mem_entries hp)))
  rw [Run.parameters, hwf, hback, Dict.ofList_perm w.perm]

theorem read_content (w : Printed) (policy : Policy) :
    Comment.read policy (Text.joinLines w.content) = .ok ⟨some w.comment, []⟩ := by
  have hlines : Text.lines (Text.joinLines w.content) =
      w.lines ++ (w.order.map parameterRun).flatMap Run.lines := by
    rw [w.lines_content, content, List.flatMap_map, List.map_eq_flatMap]
    rfl
  have hfront : ∀ line ∈ w.lines, startsParameter line = false := fun line hline =>
    startsParameter_eq_false (w.canonical.lines line (w.mem_pieces hline)).2.1
  have hproper : ∀ r ∈ w.order.map parameterRun, r.Proper := by
    intro r hr
    obtain ⟨p, _, rfl⟩ := List.mem_map.mp hr
    exact parameterRun_proper p
  have hdropped := Run.dropped_of_wellFormed w.wellFormed_runs
  rw [read_eq_of_runs hlines hfront hproper fun r hr => Or.inr (w.wellFormed_runs r hr), hdropped,
    w.parameters_runs, w.joined, w.canonical.description]
  have hne : Comment.isEmpty ⟨w.comment.description, w.comment.parameters⟩ = false :=
    w.canonical.nonempty
  simp [hne]

end Printed

end Comment

namespace Source

open Comment

theorem readBlock_printed (dialect : Dialect) (path : Path) {b : Block} {w : Printed}
    (htext : b.text = w.block) (hline : b.startsLine = true) :
    readBlock dialect path b = ⟨[], .ok (some w.comment)⟩ := by
  cases dialect with
  | permissive =>
    simp [readBlock, readComment, htext, Printed.block, Block.undecorate_print w.content_mem,
      w.read_content]
  | strict =>
    have hstrict : b.undecorateStrict? = some (Text.joinLines w.content) := by
      rw [Block.undecorateStrict?, if_pos hline, htext, Printed.block,
        Block.strictLines?_print w.content_mem, Option.map_some]
    simp [readBlock, hstrict, readComment, w.read_content, Outcome.andThen, requireId,
      w.canonical.id]

def source (first : Text) (ws : List Printed) : Text :=
  first ++ ws.flatMap fun w => w.block ++ w.gap

theorem blocks_source {c : Block.Cursor} {first : Text} {ws : List Printed}
    (hrest : c.rest = source first ws) (hfirst : ¬ Block.opening <:+: first)
    (hstart : ws ≠ [] → first = [] ∧ c.startsLine = true ∨ first.getLast? = some '\n')
    (hends : ∀ w ∈ ws.dropLast, w.gap.getLast? = some '\n') :
    List.Forall₂ (fun b w => b.text = w.block ∧ b.startsLine = true) c.blocks ws := by
  induction ws generalizing c first with
  | nil =>
    have hnil : c.rest = first := by simpa [source] using hrest
    rw [Block.Cursor.blocks_of_unopened (hnil ▸ hfirst)]
    exact .nil
  | cons w ws ih =>
    have hsplit : c.rest = first ++ Block.print w.content ++ source w.gap ws := by
      simp [hrest, source, Printed.block]
    obtain ⟨b, d, hnext, htext, hline, hd⟩ :=
      Block.Cursor.next_print hsplit w.content_mem hfirst (hstart (by simp))
    rw [Block.Cursor.blocks_of_next hnext]
    refine .cons ⟨htext, hline⟩ (ih hd w.quiet ?_ ?_)
    · intro hws
      apply Or.inr
      apply hends
      rw [List.dropLast_cons_of_ne_nil hws]
      exact List.mem_cons_self
    · intro v hv
      apply hends
      rw [List.dropLast_cons_of_ne_nil]
      · exact List.mem_cons_of_mem _ hv
      · rintro rfl
        simp at hv

theorem each_printed (dialect : Dialect) (path : Path) {bs : List Block} {ws : List Printed}
    (h : List.Forall₂ (fun b w => b.text = w.block ∧ b.startsLine = true) bs ws) :
    Outcome.each (readBlock dialect path) bs = ⟨[], .ok (ws.map fun w => some w.comment)⟩ := by
  induction h with
  | nil => rfl
  | cons hb _ ih =>
    rw [Outcome.each, readBlock_printed dialect path hb.1 hb.2]
    simp [Outcome.andThen, ih]

/-- Canonical comments are read back, whatever the order of their parameters and whatever stands
between them, in either dialect and with nothing to report. -/
theorem read_source (dialect : Dialect) (path : Path) (first : Text) (ws : List Printed)
    (hfirst : ¬ Block.opening <:+: first) (hstart : first = [] ∨ first.getLast? = some '\n')
    (hends : ∀ w ∈ ws.dropLast, w.gap.getLast? = some '\n') :
    read dialect path (source first ws) = ⟨[], .ok (ws.map (·.comment))⟩ := by
  have hblocks := blocks_source (c := ⟨source first ws, 0, true⟩) rfl hfirst
    (fun _ => hstart.imp_left fun h => ⟨h, rfl⟩) hends
  rw [read, Block.all, each_printed dialect path hblocks]
  simp [Outcome.andThen, List.filterMap_map]

def button : Printed where
  comment := ⟨"* Big\n\nSee /a".toList,
    .ofList [("id".toList, .text "a* /".toList), ("wide".toList, .flag)]⟩
  lines := ["* Big".toList, [], "See /a".toList]
  order := [("wide".toList, .flag), ("id".toList, .text "a* /".toList)]
  gap := "a { } /* x */\n".toList
  canonical := ⟨by decide, by decide, by decide, by decide, by decide, by decide⟩
  joined := by decide
  unbroken := by decide
  perm := by decide
  quiet := by decide

def link : Printed where
  comment := ⟨[], .ofList [("id".toList, .flag)]⟩
  lines := []
  order := [("id".toList, .flag)]
  gap := " **/ /*".toList
  canonical := ⟨by decide, by decide, by decide, by decide, by decide, by decide⟩
  joined := by decide
  unbroken := by decide
  perm := by decide
  quiet := by decide

theorem read_source_button_link :
    source "p { }\n".toList [button, link] =
        ("p { }\n/**\n * * Big\n *\n * See /a\n * @wide\n * @id a* /\n */a { } /* x */\n" ++
          "/**\n * @id\n */ **/ /*").toList ∧
      read .strict (Text.bytes "a.css".toList) (source "p { }\n".toList [button, link]) =
        ⟨[], .ok [button.comment, link.comment]⟩ :=
  ⟨by decide, read_source .strict _ _ _ (by decide) (by decide) (by decide)⟩

end Source

end StyleGuide
