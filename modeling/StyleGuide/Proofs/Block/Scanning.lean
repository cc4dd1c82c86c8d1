import StyleGuide.Block
import StyleGuide.Proofs.Text.Search

namespace StyleGuide.Block

open Text (byteSize OccursAt)

def stop (b : Block) : Nat := b.offset + byteSize b.text

/-- The block stands in the source at its offset and reaches from an opening to the nearest closing
behind it. -/
structure CutFrom (source : Text) (b : Block) : Prop where
  occurs : OccursAt b.text b.offset source
  opens : OccursAt opening 0 b.text
  closes : ∃ i, IsLeast {i | 3 ≤ i ∧ OccursAt closing i b.text} i ∧ i + 2 = byteSize b.text
  startsLine : b.startsLine = true ↔ b.offset = 0 ∨ ∃ i, i + 1 = b.offset ∧ OccursAt ['\n'] i source

/-- No block is left from byte `i` on: there is no opening, or the first one is never closed. -/
def Exhausted (source : Text) (i : Nat) : Prop :=
  (∀ j, i ≤ j → ¬ OccursAt opening j source) ∨
    ∃ j, IsLeast {j | i ≤ j ∧ OccursAt opening j source} j ∧
      ∀ k, j + 3 ≤ k → ¬ OccursAt closing k source

/-- The blocks of the source from byte `i` on, with no opening passed over between them. -/
inductive Scanned (source : Text) : Nat → List Block → Prop
  | done {i : Nat} (h : Exhausted source i) : Scanned source i []
  | block {i : Nat} {b : Block} {bs : List Block} (hb : CutFrom source b) (hi : i ≤ b.offset)
      (hfree : ∀ j, i ≤ j → j < b.offset → ¬ OccursAt opening j source)
      (hbs : Scanned source b.stop bs) : Scanned source i (b :: bs)

theorem CutFrom.opening_occurs {source : Text} {b : Block} (h : CutFrom source b) :
    OccursAt opening b.offset source := h.opens.trans h.occurs

theorem CutFrom.text_le {source : Text} {b c : Block} (hb : CutFrom source b)
    (hc : CutFrom source c) (ho : b.offset = c.offset) : byteSize c.text ≤ byteSize b.text := by
  by_contra hlt
  obtain ⟨i, ⟨⟨hi3, hi⟩, _⟩, hib⟩ := hb.closes
  obtain ⟨k, ⟨_, hk⟩, hkc⟩ := hc.closes
  obtain ⟨_, _, htexts⟩ := hb.occurs.append_eq (ho ▸ hc.occurs)
  -- The shorter text is the front of the longer one, which then closes too late.
  obtain ⟨x, hx⟩ := Text.prefix_of_byteSize_le htexts (by omega)
  have hle : k ≤ i := hk ⟨hi3, hx ▸ hi.append_right x⟩
  omega

theorem CutFrom.unique {source : Text} {b c : Block} (hb : CutFrom source b)
    (hc : CutFrom source c) (ho : b.offset = c.offset) : b = c := by
  have hsize : byteSize b.text = byteSize c.text :=
    Nat.le_antisymm (hc.text_le hb ho.symm) (hb.text_le hc ho)
  have htext : b.text = c.text := by
    obtain ⟨_, _, htexts⟩ := hb.occurs.append_eq (ho ▸ hc.occurs)
    exact (Text.append_inj_byteSize htexts hsize).1
  have hline : b.startsLine = c.startsLine := by
    rw [Bool.eq_iff_iff, hb.startsLine, hc.startsLine, ho]
  cases b
  cases c
  simp_all

theorem CutFrom.not_exhausted {source : Text} {b : Block} {i : Nat} (hb : CutFrom source b)
    (hi : i ≤ b.offset) (hfree : ∀ j, i ≤ j → j < b.offset → ¬ OccursAt opening j source) :
    ¬ Exhausted source i := by
  rintro (h | ⟨j, ⟨⟨hj, hjo⟩, hleast⟩, h⟩)
  · exact h b.offset hi hb.opening_occurs
  · have hjb : j ≤ b.offset := hleast ⟨hi, hb.opening_occurs⟩
    have hbj : b.offset ≤ j := by
      by_contra hlt
      exact hfree j hj (by omega) hjo
    obtain ⟨k, ⟨⟨hk3, hk⟩, _⟩, _⟩ := hb.closes
    exact h (b.offset + k) (by omega) (hk.trans hb.occurs)

theorem Scanned.unique {source : Text} {i : Nat} {bs cs : List Block} (hbs : Scanned source i bs)
    (hcs : Scanned source i cs) : bs = cs := by
  induction hbs generalizing cs with
  | done h =>
    cases hcs with
    | done _ => rfl
    | block hc hi hfree _ => exact absurd h (hc.not_exhausted hi hfree)
  | @block i b bs hb hi hfree _ ih =>
    cases hcs with
    | done h => exact absurd h (hb.not_exhausted hi hfree)
    | @block _ c cs hc hci hcfree hcs =>
      have ho : b.offset = c.offset := by
        rcases Nat.lt_trichotomy b.offset c.offset with hlt | heq | hlt
        · exact absurd hb.opening_occurs (hcfree _ hi hlt)
        · exact heq
        · exact absurd hc.opening_occurs (hfree _ hci hlt)
      obtain rfl := hb.unique hc ho
      rw [ih hcs]

theorem byteSize_opening : byteSize opening = 3 := rfl

theorem byteSize_closing : byteSize closing = 2 := rfl

theorem newline_before_iff {front rest : Text} :
    (∃ i, i + 1 = byteSize front ∧ OccursAt ['\n'] i (front ++ rest)) ↔
      front.getLast? = some '\n' := by
  have hone : byteSize ['\n'] = 1 := rfl
  rw [List.getLast?_eq_some_iff]
  constructor
  · rintro ⟨i, hi, f, r, h, rfl⟩
    have hsize : byteSize front = byteSize (f ++ ['\n']) := by
      rw [Text.byteSize_append, hone, hi]
    exact ⟨f, (Text.append_inj_byteSize h hsize).1⟩
  · rintro ⟨f, rfl⟩
    exact ⟨byteSize f, by rw [Text.byteSize_append, hone], f, rest, by simp, rfl⟩

namespace Cursor

/-- The cursor stands in the source behind the text `before`. -/
structure At (source before : Text) (c : Cursor) : Prop where
  source_eq : source = before ++ c.rest
  offset_eq : byteSize before = c.offset
  startsLine : c.startsLine = true ↔ before = [] ∨ before.getLast? = some '\n'

theorem at_start (source : Text) : At source [] ⟨source, 0, true⟩ := ⟨rfl, rfl, by simp⟩

theorem blocks_of_next {c d : Cursor} {b : Block} (h : c.next = (some b, d)) :
    c.blocks = b :: d.blocks := by
  rw [blocks]
  split
  · next hn => simp [h] at hn
  · next hs =>
    rw [h] at hs
    cases hs
    rfl

theorem blocks_of_next_none {c d : Cursor} (h : c.next = (none, d)) : c.blocks = [] := by
  rw [blocks]
  split
  · rfl
  · next hs => simp [h] at hs

theorem blocks_of_unopened {c : Cursor} (h : ¬ opening <:+: c.rest) : c.blocks = [] := by
  apply blocks_of_next_none (d := c)
  rw [next, Text.cut?_eq_none_iff.mpr h]

theorem next_some {c d : Cursor} {b : Block} (h : c.next = (some b, d)) :
    ∃ front inside, Text.cut? opening c.rest = some (front, inside ++ closing ++ d.rest) ∧
      Text.cut? closing (inside ++ closing ++ d.rest) = some (inside, d.rest) ∧
      b.text = opening ++ inside ++ closing ∧ b.offset = c.offset + byteSize front ∧
      (b.startsLine = true ↔ front = [] ∧ c.startsLine = true ∨ front.getLast? = some '\n') ∧
      d.offset = b.stop ∧ d.startsLine = false := by
  unfold next at h
  split at h
  · simp at h
  · next front body hopen =>
    split at h
    · simp at h
    · next inside rest hclose =>
      simp only [Prod.mk.injEq, Option.some.injEq] at h
      obtain ⟨rfl, rfl⟩ := h
      have hbody : body = inside ++ closing ++ rest := Text.eq_of_cut? hclose
      refine ⟨front, inside, hbody ▸ hopen, hbody ▸ hclose, rfl, rfl, ?_, rfl, rfl⟩
      rcases List.eq_nil_or_concat front with rfl | ⟨f, x, rfl⟩ <;> simp

theorem next_none {c d : Cursor} (h : c.next = (none, d)) :
    Text.cut? opening c.rest = none ∨
      ∃ front body, Text.cut? opening c.rest = some (front, body) ∧
        Text.cut? closing body = none := by
  unfold next at h
  split at h
  · next hopen => exact Or.inl hopen
  · next front body hopen =>
    split at h
    · next hclose => exact Or.inr ⟨front, body, hopen, hclose⟩
    · simp at h

theorem At.opening_least {source before : Text} {c : Cursor} (hc : c.At source before)
    {front body : Text} (h : Text.cut? opening c.rest = some (front, body)) :
    IsLeast {j | c.offset ≤ j ∧ OccursAt opening j source} (c.offset + byteSize front) := by
  obtain ⟨hmem, hleast⟩ := Text.isLeast_of_cut? h
  rw [hc.source_eq, ← hc.offset_eq]
  refine ⟨⟨Nat.le_add_right _ _, Text.occursAt_append.mpr hmem⟩, ?_⟩
  rintro j ⟨hj, ho⟩
  obtain ⟨k, rfl⟩ := Nat.exists_eq_add_of_le hj
  exact Nat.add_le_add_left (hleast (Text.occursAt_append.mp ho)) _

theorem At.exhausted {source before : Text} {c d : Cursor} (hc : c.At source before)
    (h : c.next = (none, d)) : Exhausted source c.offset := by
  rcases next_none h with hopen | ⟨front, body, hopen, hclose⟩
  · refine Or.inl fun j hj ho => ?_
    rw [← hc.offset_eq] at hj
    obtain ⟨k, rfl⟩ := Nat.exists_eq_add_of_le hj
    rw [hc.source_eq] at ho
    exact Text.not_occursAt_of_cut? hopen k (Text.occursAt_append.mp ho)
  · refine Or.inr ⟨_, hc.opening_least hopen, fun k hk ho => ?_⟩
    have hsource : source = before ++ front ++ opening ++ body := by
      rw [hc.source_eq, Text.eq_of_cut? hopen]
      simp
    have hsize : byteSize (before ++ front ++ opening) = c.offset + byteSize front + 3 := by
      simp [hc.offset_eq, byteSize_opening, Nat.add_assoc]
    obtain ⟨m, rfl⟩ := Nat.exists_eq_add_of_le hk
    rw [hsource, ← hsize] at ho
    exact Text.not_occursAt_of_cut? hclose m (Text.occursAt_append.mp ho)

theorem At.cutFrom {source before : Text} {c d : Cursor} {b : Block} (hc : c.At source before)
    (h : c.next = (some b, d)) : CutFrom source b := by
  obtain ⟨front, inside, hopen, hclose, htext, hoffset, hline, _⟩ := next_some h
  have hsource : source = before ++ front ++ b.text ++ d.rest := by
    rw [hc.source_eq, Text.eq_of_cut? hopen, htext]
    simp
  have hsize : byteSize (before ++ front) = b.offset := by
    rw [Text.byteSize_append, hc.offset_eq, hoffset]
  constructor
  · exact ⟨before ++ front, d.rest, hsource, hsize⟩
  · exact ⟨[], inside ++ closing, by simp [htext], rfl⟩
  · refine ⟨3 + byteSize inside, ⟨⟨Nat.le_add_right _ _, ?_⟩, ?_⟩, ?_⟩
    · exact ⟨opening ++ inside, [], by simp [htext], by simp [byteSize_opening]⟩
    · rintro i ⟨hi, ho⟩
      obtain ⟨k, rfl⟩ := Nat.exists_eq_add_of_le hi
      rw [htext, List.append_assoc, ← byteSize_opening, Text.occursAt_append] at ho
      exact Nat.add_le_add_left ((Text.isLeast_of_cut? hclose).2 (ho.append_right d.rest)) _
    · simp [htext, byteSize_opening, byteSize_closing, Nat.add_assoc]
  · rw [hline, ← hsize, hsource, List.append_assoc, newline_before_iff, Text.byteSize_eq_zero,
      hc.startsLine]
    rcases List.eq_nil_or_concat front with rfl | ⟨f, x, rfl⟩ <;> simp

theorem At.next {source before : Text} {c d : Cursor} {b : Block} (hc : c.At source before)
    (h : c.next = (some b, d)) : ∃ front, d.At source (before ++ front ++ b.text) := by
  obtain ⟨front, inside, hopen, _, htext, hoffset, _, hstop, hline⟩ := next_some h
  refine ⟨front, ?_, ?_, ?_⟩
  · rw [hc.source_eq, Text.eq_of_cut? hopen, htext]
    simp
  · rw [hstop, stop, Text.byteSize_append, Text.byteSize_append, hc.offset_eq, hoffset]
  · -- What was read last is the slash of the closing.
    simp [hline, htext, closing]

theorem At.scanned {source before : Text} {c : Cursor} (hc : c.At source before) :
    Scanned source c.offset c.blocks := by
  fun_induction blocks c generalizing before with
  | case1 c d h => exact .done (hc.exhausted h)
  | case2 c b d h ih =>
    obtain ⟨front, inside, hopen, _, _, hoffset, _, hstop, _⟩ := next_some h
    obtain ⟨_, hd⟩ := hc.next h
    refine .block (hc.cutFrom h) (by omega) ?_ (hstop ▸ ih hd)
    intro j hj hlt ho
    have := (hc.opening_least hopen).2 ⟨hj, ho⟩
    omega

theorem run_next_blocks (c saved : Cursor) :
    c.run saved (List.replicate (c.blocks.length + 1) .next) =
      c.blocks.map (fun b => .block (some b)) ++ [.block none] := by
  fun_induction blocks c with
  | case1 c d h => simp [run, h]
  | case2 c b d h ih => simp [List.replicate_succ, run, h, ← ih]

theorem closing_not_infix_of_cut? {inside rest : Text}
    (h : Text.cut? closing (inside ++ closing ++ rest) = some (inside, rest)) :
    ¬ closing <:+: inside := by
  rintro ⟨f, r, hf⟩
  have hle := Text.cut?_length_le h (f := f) (r := r ++ closing ++ rest) (by simp [← hf])
  have hlen := congrArg List.length hf
  simp only [List.length_append, closing, List.length_cons, List.length_nil] at hlen
  omega

theorem inside_of_mem_blocks {c : Cursor} {b : Block} (h : b ∈ c.blocks) :
    ∃ inside, b.text = opening ++ inside ++ closing ∧ ¬ closing <:+: inside := by
  fun_induction blocks c with
  | case1 => simp at h
  | case2 c b' d hnext ih =>
    rcases List.mem_cons.mp h with rfl | h
    · obtain ⟨_, inside, _, hcut, htext, _⟩ := next_some hnext
      exact ⟨inside, htext, closing_not_infix_of_cut? hcut⟩
    · exact ih h

end Cursor

theorem inside_of_mem_all {source : Text} {b : Block} (h : b ∈ all source) :
    ∃ inside, b.text = opening ++ inside ++ closing ∧ ¬ closing <:+: inside :=
  Cursor.inside_of_mem_blocks h

theorem scanned_all (source : Text) : Scanned source 0 (all source) :=
  (Cursor.at_start source).scanned

theorem Scanned.five_le {source : Text} {i : Nat} {bs : List Block} (h : Scanned source i bs) :
    ∀ b ∈ bs, OccursAt b.text b.offset source ∧ 5 ≤ byteSize b.text := by
  induction h with
  | done _ => simp
  | block hb _ _ _ ih =>
    intro c hc
    rcases List.mem_cons.mp hc with rfl | hc
    · obtain ⟨i, ⟨⟨hi, _⟩, _⟩, hsize⟩ := hb.closes
      exact ⟨hb.occurs, by omega⟩
    · exact ih c hc

theorem all_eq_iff_scanned (source : Text) :
    (∀ bs, bs = all source ↔ Scanned source 0 bs) ∧
      (∀ b ∈ all source, OccursAt b.text b.offset source ∧ 5 ≤ byteSize b.text) ∧
      Cursor.run ⟨source, 0, true⟩ ⟨source, 0, true⟩
          (List.replicate ((all source).length + 1) .next) =
        (all source).map (fun b => .block (some b)) ++ [.block none] := by
  refine ⟨fun bs => ⟨?_, fun h => h.unique (scanned_all source)⟩, (scanned_all source).five_le,
    Cursor.run_next_blocks _ _⟩
  rintro rfl
  exact scanned_all source

end StyleGuide.Block
