import StyleGuide.Proofs.Block.Scanning

namespace StyleGuide.Block

open Text (byteSize)

/-- The next block of the source from byte `i` on, and the byte from which to look further. -/
def nextAt (source : Text) (i : Nat) : Option Block × Nat :=
  match Text.splitAt? source i with
  | none => (none, i)
  | some (before, rest) =>
    match Text.cut? opening rest with
    | none => (none, i)
    | some (front, body) =>
      match Text.cut? closing body with
      | none => (none, byteSize source)
      | some (inside, _) =>
        let text := opening ++ inside ++ closing
        let offset := i + byteSize front
        let startsLine := decide (offset = 0 ∨ (before ++ front).getLast? = some '\n')
        (some ⟨text, offset, startsLine⟩, offset + byteSize text)

/-- The blocks found from byte `i` on, up to the first time that there is none. -/
inductive Collected (source : Text) : Nat → List Block → Prop
  | done {i i' : Nat} (h : nextAt source i = (none, i')) : Collected source i []
  | more {i i' : Nat} {b : Block} {bs : List Block} (h : nextAt source i = (some b, i'))
      (hbs : Collected source i' bs) : Collected source i (b :: bs)

theorem Collected.unique {source : Text} {i : Nat} {as bs : List Block}
    (ha : Collected source i as) (hb : Collected source i bs) : as = bs := by
  induction ha generalizing bs with
  | done h =>
    cases hb with
    | done _ => rfl
    | more h' _ => simp [h] at h'
  | more h _ ih =>
    cases hb with
    | done h' => simp [h] at h'
    | more h' hbs =>
      obtain ⟨hb, rfl⟩ := Prod.mk.inj (h.symm.trans h')
      rw [Option.some.inj hb, ih hbs]

namespace Cursor

/-- The answers to the steps when the place and the bookmark are bytes of the source. -/
inductive Answered (source : Text) : (here saved : Nat) → List Step → List Answer → Prop
  | nil {i j : Nat} : Answered source i j [] []
  | next {i i' j : Nat} {b : Option Block} {steps : List Step} {answers : List Answer}
      (h : nextAt source i = (b, i')) (hrest : Answered source i' j steps answers) :
      Answered source i j (.next :: steps) (.block b :: answers)
  | save {i j : Nat} {steps : List Step} {answers : List Answer}
      (hrest : Answered source i i steps answers) :
      Answered source i j (.save :: steps) (.saved :: answers)
  | restore {i j : Nat} {steps : List Step} {answers : List Answer}
      (hrest : Answered source j j steps answers) :
      Answered source i j (.restore :: steps) (.restored :: answers)
  | rest {i j : Nat} {bs : List Block} {steps : List Step} {answers : List Answer}
      (h : Collected source i bs) (hrest : Answered source i j steps answers) :
      Answered source i j (.rest :: steps) (.rest bs :: answers)

/-- The answers to the steps when the place and the bookmark are told by how many blocks of the
list come before them. -/
def answersIn (bs : List Block) (here saved : Nat) : List Step → List Answer
  | [] => []
  | .next :: steps =>
    match bs[here]? with
    | none => .block none :: answersIn bs here saved steps
    | some b => .block (some b) :: answersIn bs (here + 1) saved steps
  | .save :: steps => .saved :: answersIn bs here here steps
  | .restore :: steps => .restored :: answersIn bs saved saved steps
  | .rest :: steps => .rest (bs.drop here) :: answersIn bs here saved steps

def Answer.shown : Answer → List Block
  | .block b => b.toList
  | .rest bs => bs
  | .saved | .restored => []

/-- Nothing is shown until the bookmark is gone back to. -/
def Quiet (answers : List Answer) : Prop :=
  ∀ between a behind, answers = between ++ a :: behind → a.shown ≠ [] → .restored ∈ between

/-- Once there was no next block, it stays quiet. -/
def Fused (answers : List Answer) : Prop :=
  ∀ before behind, answers = before ++ .block none :: behind → Quiet behind

theorem head?_blocks (c : Cursor) : c.blocks.head? = c.next.1 := by
  rcases h : c.next with ⟨b, d⟩
  cases b with
  | none => rw [blocks_of_next_none h, List.head?_nil]
  | some b => rw [blocks_of_next h, List.head?_cons]

theorem ended_of_next_none {c d : Cursor} (h : c.next = (none, d)) :
    d = c ∨ d.rest = [] ∧ d.offset = c.offset + byteSize c.rest := by
  unfold next at h
  split at h
  · exact Or.inl (Prod.mk.inj h).2.symm
  · -- An opening that is never closed leads to the end of the source.
    split at h
    · rw [← (Prod.mk.inj h).2]
      exact Or.inr ⟨rfl, rfl⟩
    · simp at h

theorem next_of_rest_nil {c : Cursor} (h : c.rest = []) : c.next = (none, c) := by
  rw [next, h]
  rfl

theorem next_of_next_none {c d : Cursor} (h : c.next = (none, d)) : d.next = (none, d) := by
  rcases ended_of_next_none h with rfl | ⟨hrest, _⟩
  · exact h
  · exact next_of_rest_nil hrest

theorem blocks_next (c : Cursor) : c.next.2.blocks = c.blocks.tail := by
  rcases h : c.next with ⟨b, d⟩
  cases b with
  | none => rw [blocks_of_next_none h, blocks_of_next_none (next_of_next_none h), List.tail_nil]
  | some b => rw [blocks_of_next h, List.tail_cons]

theorem run_eq_answersIn {bs : List Block} {c d : Cursor} {i j : Nat}
    (hc : c.blocks = bs.drop i) (hd : d.blocks = bs.drop j) (steps : List Step) :
    c.run d steps = answersIn bs i j steps := by
  induction steps generalizing c d i j with
  | nil => rfl
  | cons step steps ih =>
    cases step with
    | next =>
      have hblock : c.next.1 = bs[i]? := by rw [← head?_blocks, hc, List.head?_drop]
      have hnext : c.next.2.blocks = bs.drop (i + 1) := by rw [blocks_next, hc, List.tail_drop]
      rw [run, answersIn, hblock]
      cases hb : bs[i]? with
      | none =>
        -- Past the end the place in the list stays, and nothing is left from either.
        have hlen := List.getElem?_eq_none_iff.mp hb
        rw [List.drop_of_length_le (Nat.le_succ_of_le hlen), ← List.drop_of_length_le hlen] at hnext
        rw [ih hnext hd]
      | some b => rw [ih hnext hd]
    | save => rw [run, answersIn, ih hc hc]
    | restore => rw [run, answersIn, ih hd hd]
    | rest => rw [run, answersIn, hc, ih hc hd]

theorem Quiet.cons {first : Answer} {answers : List Answer} (h : Quiet answers)
    (hfirst : first.shown = []) : Quiet (first :: answers) := by
  intro between a behind heq ha
  cases between with
  | nil =>
    obtain ⟨rfl, _⟩ := List.cons.inj heq
    exact absurd hfirst ha
  | cons x between => exact List.mem_cons_of_mem x (h between a behind (List.cons.inj heq).2 ha)

theorem quiet_restored (answers : List Answer) : Quiet (.restored :: answers) := by
  intro between a behind heq ha
  cases between with
  | nil =>
    obtain ⟨rfl, _⟩ := List.cons.inj heq
    exact absurd rfl ha
  | cons x between =>
    obtain ⟨rfl, _⟩ := List.cons.inj heq
    exact List.mem_cons_self

theorem Fused.cons {first : Answer} {answers : List Answer} (h : Fused answers)
    (hfirst : first = .block none → Quiet answers) : Fused (first :: answers) := by
  intro before behind heq
  cases before with
  | nil =>
    obtain ⟨hnone, rfl⟩ := List.cons.inj heq
    exact hfirst hnone
  | cons x before => exact h before behind (List.cons.inj heq).2

theorem quiet_answersIn {bs : List Block} {i : Nat} (hi : bs.length ≤ i) (j : Nat)
    (steps : List Step) : Quiet (answersIn bs i j steps) := by
  induction steps generalizing j with
  | nil => simp [Quiet, answersIn]
  | cons step steps ih =>
    cases step with
    | next =>
      rw [answersIn, List.getElem?_eq_none hi]
      exact (ih j).cons rfl
    | save => exact (ih i).cons rfl
    | restore => exact quiet_restored _
    | rest => exact (ih j).cons (List.drop_of_length_le hi)

theorem fused_answersIn (bs : List Block) (i j : Nat) (steps : List Step) :
    Fused (answersIn bs i j steps) := by
  induction steps generalizing i j with
  | nil => simp [Fused, answersIn]
  | cons step steps ih =>
    cases step with
    | next =>
      rw [answersIn]
      split
      · next hb =>
        exact (ih i j).cons fun _ => quiet_answersIn (List.getElem?_eq_none_iff.mp hb) j steps
      · exact (ih (i + 1) j).cons (by simp)
    | save => exact (ih i i).cons (by simp)
    | restore => exact (ih j j).cons (by simp)
    | rest => exact (ih i j).cons (by simp)

/-- The cursor stands in the source. At the end it may have forgotten whether a line starts there. -/
inductive Stands (source : Text) (c : Cursor) : Prop
  | within {before : Text} (h : c.At source before)
  | ended (hrest : c.rest = []) (hoffset : c.offset = byteSize source)

theorem At.startsLine_behind {source before : Text} {c : Cursor} (hc : c.At source before)
    (front : Text) :
    decide (c.offset + byteSize front = 0 ∨ (before ++ front).getLast? = some '\n') =
      front.getLast?.elim c.startsLine (decide <| · = '\n') := by
  rcases List.eq_nil_or_concat front with rfl | ⟨f, x, rfl⟩
  · have hzero : c.offset + byteSize [] = 0 ↔ before = [] := by
      rw [← hc.offset_eq, byteSize, Nat.add_zero, Text.byteSize_eq_zero]
    rw [List.append_nil, Bool.eq_iff_iff, decide_eq_true_iff, hzero]
    exact hc.startsLine.symm
  · simp [byteSize, Nat.ne_of_gt x.utf8Size_pos]

theorem At.byteSize_source {source before : Text} {c : Cursor} (hc : c.At source before) :
    byteSize source = c.offset + byteSize c.rest := by
  rw [← hc.offset_eq, hc.source_eq, Text.byteSize_append]

theorem At.nextAt_eq {source before : Text} {c : Cursor} (hc : c.At source before) :
    nextAt source c.offset = (c.next.1, c.next.2.offset) := by
  have hsplit : Text.splitAt? source c.offset = some (before, c.rest) := by
    rw [← hc.offset_eq, hc.source_eq, Text.splitAt?_append]
  cases hopen : Text.cut? opening c.rest with
  | none => simp only [nextAt, Cursor.next, hsplit, hopen]
  | some p =>
    obtain ⟨front, body⟩ := p
    cases hclose : Text.cut? closing body with
    | none => simp only [nextAt, Cursor.next, hsplit, hopen, hclose, hc.byteSize_source]
    | some q =>
      simp only [nextAt, Cursor.next, hsplit, hopen, hclose, hc.startsLine_behind front]
      cases front.getLast? <;> rfl

theorem Stands.nextAt_eq {source : Text} {c : Cursor} (hc : c.Stands source) :
    nextAt source c.offset = (c.next.1, c.next.2.offset) := by
  cases hc with
  | within hc => exact hc.nextAt_eq
  | ended hrest hoffset =>
    have hsplit : Text.splitAt? source c.offset = some (source, []) := by
      rw [hoffset, ← Text.splitAt?_append source [], List.append_nil]
    rw [next_of_rest_nil hrest, nextAt, hsplit]
    rfl

theorem Stands.next {source : Text} {c : Cursor} (hc : c.Stands source) :
    c.next.2.Stands source := by
  cases hc with
  | ended hrest hoffset =>
    rw [next_of_rest_nil hrest]
    exact .ended hrest hoffset
  | within hc =>
    rcases hnext : c.next with ⟨b, d⟩
    cases b with
    | none =>
      rcases ended_of_next_none hnext with rfl | ⟨hrest, hoffset⟩
      · exact .within hc
      · exact .ended hrest (hoffset.trans hc.byteSize_source.symm)
    | some b =>
      obtain ⟨_, hd⟩ := hc.next hnext
      exact .within hd

theorem Stands.collected {source : Text} {c : Cursor} (hc : c.Stands source) :
    Collected source c.offset c.blocks := by
  have hnext := hc.nextAt_eq
  have hd := hc.next
  fun_induction blocks c with
  | case1 c d h =>
    rw [h] at hnext
    exact .done hnext
  | case2 c b d h ih =>
    rw [h] at hnext hd
    exact .more hnext (ih hd hd.nextAt_eq hd.next)

theorem Stands.answered {source : Text} {c d : Cursor} (hc : c.Stands source)
    (hd : d.Stands source) (steps : List Step) :
    Answered source c.offset d.offset steps (c.run d steps) := by
  induction steps generalizing c d with
  | nil => exact .nil
  | cons step steps ih =>
    cases step with
    | next => exact .next hc.nextAt_eq (ih hc.next hd)
    | save => exact .save (ih hc hc)
    | restore => exact .restore (ih hd hd)
    | rest => exact .rest hc.collected (ih hc hd)

theorem Answered.unique {source : Text} {i j : Nat} {steps : List Step} {as bs : List Answer}
    (ha : Answered source i j steps as) (hb : Answered source i j steps bs) : as = bs := by
  induction ha generalizing bs with
  | nil =>
    cases hb
    rfl
  | next h _ ih =>
    cases hb with
    | next h' hrest =>
      obtain ⟨rfl, rfl⟩ := Prod.mk.inj (h.symm.trans h')
      rw [ih hrest]
  | save _ ih =>
    cases hb with
    | save hrest => rw [ih hrest]
  | restore _ ih =>
    cases hb with
    | restore hrest => rw [ih hrest]
  | rest h _ ih =>
    cases hb with
    | rest h' hrest => rw [h.unique h', ih hrest]

theorem run_eq_answersIn_all (source : Text) (steps : List Step) :
    run ⟨source, 0, true⟩ ⟨source, 0, true⟩ steps = answersIn (all source) 0 0 steps ∧
      (∀ answers, Answered source 0 0 steps answers ↔ answers = answersIn (all source) 0 0 steps) ∧
      Fused (run ⟨source, 0, true⟩ ⟨source, 0, true⟩ steps) := by
  have hstart : Stands source ⟨source, 0, true⟩ := .within (at_start source)
  have hrun : run ⟨source, 0, true⟩ ⟨source, 0, true⟩ steps = answersIn (all source) 0 0 steps :=
    run_eq_answersIn rfl rfl steps
  have hanswered := hstart.answered hstart steps
  rw [hrun] at hanswered ⊢
  refine ⟨rfl, fun answers => ⟨fun h => h.unique hanswered, ?_⟩, fused_answersIn _ 0 0 steps⟩
  rintro rfl
  exact hanswered

end Cursor

end StyleGuide.Block
