import StyleGuide.Proofs.Block.Scanning

namespace StyleGuide.Block

open Text (byteSize OccursAt)

def moved (n : Nat) (b : Block) : Block := { b with offset := n + b.offset }

/-- The number of bytes up to the end of the last block. -/
def reach (source : Text) : Nat := (all source).getLast?.elim 0 stop

namespace Cursor

def moved (n : Nat) (c : Cursor) : Cursor := { c with offset := n + c.offset }

def extended (c : Cursor) (t : Text) : Cursor := { c with rest := c.rest ++ t }

theorem blocks_congr {c d : Cursor} (h : c.next = d.next) : c.blocks = d.blocks := by
  rcases hnext : d.next with ⟨ob, e⟩
  cases ob with
  | none => rw [blocks_of_next_none (h.trans hnext), blocks_of_next_none hnext]
  | some b => rw [blocks_of_next (h.trans hnext), blocks_of_next hnext]

theorem next_moved (n : Nat) (c : Cursor) :
    (c.moved n).next = (c.next.1.map (Block.moved n), c.next.2.moved n) := by
  simp only [next, moved]
  split
  · rfl
  · next front body _ =>
    split
    · simp [Nat.add_assoc]
    · simp [Block.moved, Nat.add_assoc]

theorem blocks_moved (n : Nat) (c : Cursor) :
    (c.moved n).blocks = c.blocks.map (Block.moved n) := by
  fun_induction blocks c with
  | case1 c d h =>
    apply blocks_of_next_none
    rw [next_moved, h]
    rfl
  | case2 c b d h ih =>
    have hnext : (c.moved n).next = (some (b.moved n), d.moved n) := by
      rw [next_moved, h]
      rfl
    rw [blocks_of_next hnext, ih, List.map_cons]

theorem next_extended {c d : Cursor} {b : Block} (h : c.next = (some b, d)) (t : Text) :
    (c.extended t).next = (some b, d.extended t) := by
  unfold next at h
  split at h
  · simp at h
  · next front body hopen =>
    split at h
    · simp at h
    · next inside rest hclose =>
      simp only [Prod.mk.injEq, Option.some.injEq] at h
      obtain ⟨rfl, rfl⟩ := h
      simp only [next, extended]
      rw [Text.cut?_append_right hopen t]
      simp only
      rw [Text.cut?_append_right hclose t]

theorem next_gap {gap t : Text} (hgap : ¬ opening <:+: gap) (ht : opening <:+: t) {offset : Nat}
    {startsLine : Bool} (hend : gap = [] ∧ startsLine = true ∨ gap.getLast? = some '\n') :
    (⟨gap ++ t, offset, startsLine⟩ : Cursor).next =
      (⟨t, offset + byteSize gap, true⟩ : Cursor).next := by
  rcases hend with ⟨rfl, rfl⟩ | hlast
  · rfl
  · obtain ⟨g, rfl⟩ := List.getLast?_eq_some_iff.mp hlast
    have hg : ¬ opening <:+: g := fun h => hgap (List.infix_append_of_infix_left h)
    have hcut := Text.cut?_append_cons (c := '\n') (by decide) hg t
    rw [next, next, List.append_assoc, List.singleton_append, hcut]
    cases hopen : Text.cut? opening t with
    | none => exact absurd ht (Text.cut?_eq_none_iff.mp hopen)
    | some p =>
      obtain ⟨front, body⟩ := p
      have hsize : byteSize (g ++ '\n' :: front) = byteSize (g ++ ['\n']) + byteSize front := by
        rw [← Text.byteSize_append, List.append_assoc, List.singleton_append]
      have hrest : byteSize (g ++ '\n' :: t) = byteSize (g ++ ['\n']) + byteSize t := by
        rw [← Text.byteSize_append, List.append_assoc, List.singleton_append]
      have hline : (g ++ '\n' :: front).getLast? = some (front.getLast?.getD '\n') := by
        rw [List.getLast?_append_cons, List.getLast?_cons]
      simp only [Option.map_some, hsize, hrest, hline, ← Nat.add_assoc]
      cases hclose : Text.cut? closing body with
      | none => rfl
      | some q =>
        cases front.getLast? <;> rfl

theorem blocks_gap {gap : Text} (hgap : ¬ opening <:+: gap) (t : Text) {offset : Nat}
    {startsLine : Bool} (hend : gap = [] ∧ startsLine = true ∨ gap.getLast? = some '\n') :
    (⟨gap ++ t, offset, startsLine⟩ : Cursor).blocks =
      (all t).map (Block.moved (offset + byteSize gap)) := by
  rw [all, ← blocks_moved]
  by_cases ht : opening <:+: t
  · exact blocks_congr (next_gap hgap ht hend)
  · have hboth : ¬ opening <:+: gap ++ t := by
      rcases hend with ⟨rfl, _⟩ | hlast
      · exact ht
      · obtain ⟨g, rfl⟩ := List.getLast?_eq_some_iff.mp hlast
        have hg : ¬ opening <:+: g := fun h => hgap (List.infix_append_of_infix_left h)
        rw [List.append_assoc, List.singleton_append, Text.infix_append_cons (by decide), not_or]
        exact ⟨hg, ht⟩
    have hmoved : ¬ opening <:+: (moved (offset + byteSize gap) ⟨t, 0, true⟩).rest := ht
    rw [blocks_of_unopened hboth, blocks_of_unopened hmoved]

theorem At.not_infix_rest {source before : Text} {c : Cursor} (hc : c.At source before)
    (h : ∀ i, c.offset ≤ i → ¬ OccursAt opening i source) : ¬ opening <:+: c.rest := by
  rintro ⟨front, rest, hrest⟩
  apply h (byteSize before + byteSize front) (by rw [hc.offset_eq]; omega)
  rw [hc.source_eq, Text.occursAt_append]
  exact ⟨front, rest, hrest.symm, rfl⟩

theorem ends_of_next {c d : Cursor} {b : Block} (h : c.next = (some b, d))
    (hend : c.rest = [] ∧ c.startsLine = true ∨ c.rest.getLast? = some '\n') :
    d.rest.getLast? = some '\n' := by
  obtain ⟨front, inside, hopen, _⟩ := next_some h
  have hrest := Text.eq_of_cut? hopen
  rw [← List.append_assoc, ← List.append_assoc] at hrest
  rcases hend with ⟨hnil, _⟩ | hlast
  · rw [hnil] at hrest
    simp [opening] at hrest
  · -- The last character of the block is a slash, so something stands behind it.
    rw [hrest, List.getLast?_append] at hlast
    cases hd : d.rest.getLast? with
    | none => simp [hd, closing] at hlast
    | some x => simpa [hd] using hlast

theorem blocks_extended {source before : Text} {c : Cursor} (hc : c.At source before) (t : Text)
    (hend : c.rest = [] ∧ c.startsLine = true ∨ c.rest.getLast? = some '\n')
    (hquiet : ∀ i, c.blocks.getLast?.elim c.offset stop ≤ i → ¬ OccursAt opening i source) :
    (c.extended t).blocks = c.blocks ++ (all t).map (Block.moved (c.offset + byteSize c.rest)) := by
  fun_induction blocks c generalizing before with
  | case1 c d h => exact blocks_gap (hc.not_infix_rest hquiet) t hend
  | case2 c b d h ih =>
    obtain ⟨front, inside, hopen, _, htext, hoffset, _, hstop, _⟩ := next_some h
    obtain ⟨_, hd⟩ := hc.next h
    have hsize : c.offset + byteSize c.rest = d.offset + byteSize d.rest := by
      rw [hstop, stop, htext, hoffset, Text.eq_of_cut? hopen]
      simp only [Text.byteSize_append]
      omega
    have hquiet' : ∀ i, d.blocks.getLast?.elim d.offset stop ≤ i →
        ¬ OccursAt opening i source := by
      intro i hi
      apply hquiet i
      rw [List.getLast?_cons]
      cases hlast : d.blocks.getLast? with
      | none => simpa [hlast, hstop] using hi
      | some e => simpa [hlast] using hi
    rw [blocks_of_next (next_extended h t), ih hd (Or.inr (ends_of_next h hend)) hquiet', hsize,
      List.cons_append]

end Cursor

theorem all_append {a b : Text} (hend : a = [] ∨ a.getLast? = some '\n')
    (hquiet : ∀ i, reach a ≤ i → ¬ OccursAt opening i a) :
    all (a ++ b) = all a ++ (all b).map (moved (byteSize a)) := by
  have h := Cursor.blocks_extended (Cursor.at_start a) b (hend.imp_left fun h => ⟨h, rfl⟩) hquiet
  rwa [Nat.zero_add] at h

def place (b : Block) : Text × Nat := (b.text, b.offset)

namespace Cursor

/-- Whether the cursor starts a line is told of the next block and changes nothing else. -/
theorem next_startsLine (c : Cursor) (x : Bool) :
    (∃ d e, c.next = (none, d) ∧ next { c with startsLine := x } = (none, e)) ∨
      ∃ b d y, c.next = (some b, d) ∧
        next { c with startsLine := x } = (some { b with startsLine := y }, d) := by
  simp only [next]
  split
  · exact Or.inl ⟨_, _, rfl, rfl⟩
  · split
    · exact Or.inl ⟨_, _, rfl, rfl⟩
    · exact Or.inr ⟨_, _, _, rfl, rfl⟩

theorem map_place_blocks (c : Cursor) (x : Bool) :
    (blocks { c with startsLine := x }).map place = c.blocks.map place := by
  rcases next_startsLine c x with ⟨d, e, hc, hx⟩ | ⟨b, d, y, hc, hx⟩
  · rw [blocks_of_next_none hc, blocks_of_next_none hx]
  · rw [blocks_of_next hc, blocks_of_next hx]
    rfl

end Cursor

theorem map_place_blocks_all (rest : Text) (n : Nat) (startsLine : Bool) :
    (Cursor.blocks ⟨rest, n, startsLine⟩).map place = (all rest).map fun b => place (b.moved n) := by
  have hmoved := Cursor.blocks_moved n ⟨rest, 0, true⟩
  have hplace := Cursor.map_place_blocks (Cursor.moved n ⟨rest, 0, true⟩) startsLine
  rw [hmoved, List.map_map] at hplace
  exact hplace

theorem all_of_unclosed {s : Text} (h : ¬ closing <:+: s) : all s = [] := by
  rcases hnext : (⟨s, 0, true⟩ : Cursor).next with ⟨ob, d⟩
  cases ob with
  | none => exact Cursor.blocks_of_next_none hnext
  | some b =>
    obtain ⟨front, inside, hopen, _⟩ := Cursor.next_some hnext
    have hs : s = front ++ opening ++ (inside ++ closing ++ d.rest) := Text.eq_of_cut? hopen
    apply absurd _ h
    exact ⟨front ++ opening ++ inside, d.rest, by simp [hs]⟩

theorem cut?_closing {inside : Text} (h : ¬ closing <:+: inside) (rest : Text) :
    Text.cut? closing (inside ++ closing ++ rest) = some (inside, rest) := by
  apply Text.cut?_append
  change ¬ closing <:+: inside ++ ['*']
  rw [List.infix_concat_iff, not_or]
  refine ⟨?_, h⟩
  rintro ⟨front, hfront⟩
  have hlast := congrArg List.getLast? hfront
  simp [closing] at hlast

def emptyComment : Text := ['/', '*', '*', '/']

theorem all_emptyComment_append {inside : Text} (h : ¬ closing <:+: inside) (rest : Text) :
    (all (emptyComment ++ (inside ++ closing ++ rest))).map place =
      (emptyComment ++ inside ++ closing, 0) ::
        (all rest).map fun b => place (b.moved (byteSize (emptyComment ++ inside ++ closing))) := by
  have hslash : ¬ closing <:+: '/' :: inside := by
    rw [List.infix_cons_iff, not_or]
    exact ⟨by simp [closing], h⟩
  have hnext : (⟨emptyComment ++ (inside ++ closing ++ rest), 0, true⟩ : Cursor).next =
      (some ⟨emptyComment ++ inside ++ closing, 0, true⟩,
        ⟨rest, byteSize (emptyComment ++ inside ++ closing), false⟩) := by
    have hopen : Text.cut? opening (emptyComment ++ (inside ++ closing ++ rest)) =
        some ([], '/' :: inside ++ closing ++ rest) := rfl
    rw [Cursor.next, hopen]
    simp only [cut?_closing hslash]
    simp [emptyComment, opening, byteSize]
  rw [all, Cursor.blocks_of_next hnext, List.map_cons, map_place_blocks_all]
  rfl

theorem all_emptyComment_of_unclosed {s : Text} (h : ¬ closing <:+: s) :
    all (emptyComment ++ s) = [] := by
  have hopen : Text.cut? opening (emptyComment ++ s) = some ([], '/' :: s) := rfl
  have hclose : Text.cut? closing ('/' :: s) = none := by
    rw [Text.cut?_eq_none_iff, List.infix_cons_iff, not_or]
    exact ⟨by simp [closing], h⟩
  apply Cursor.blocks_of_next_none (d := ⟨[], byteSize (emptyComment ++ s), false⟩)
  rw [Cursor.next, hopen]
  simp [hclose]

/-- An empty comment opens a block, as its asterisks belong to the opening. It leaves the blocks
behind it alone only if nothing behind it closes that block. -/
theorem all_emptyComment (s : Text) :
    ((all (emptyComment ++ s)).map place = (all s).map (fun b => place (b.moved 4)) ↔
        ¬ closing <:+: s) ∧
      (¬ closing <:+: s → all (emptyComment ++ s) = [] ∧ all s = []) ∧
      ∀ inside rest, s = inside ++ closing ++ rest → ¬ closing <:+: inside →
        (all (emptyComment ++ s)).map place =
          (emptyComment ++ inside ++ closing, 0) :: (all rest).map fun b =>
            place (b.moved (byteSize (emptyComment ++ inside ++ closing))) := by
  refine ⟨⟨?_, ?_⟩, ?_, ?_⟩
  · intro hsame hclose
    obtain ⟨⟨inside, rest⟩, hcut⟩ :=
      Option.ne_none_iff_exists'.mp fun hnone => Text.cut?_eq_none_iff.mp hnone hclose
    have hs := Text.eq_of_cut? hcut
    have hinside : ¬ closing <:+: inside := Cursor.closing_not_infix_of_cut? (hs ▸ hcut)
    rw [hs, all_emptyComment_append hinside] at hsame
    -- The block that the empty comment opens stands at the front, where no moved block can stand.
    obtain ⟨b, bs, _, hplace, _⟩ := List.map_eq_cons_iff.mp hsame.symm
    simp [place, moved] at hplace
  · intro h
    rw [all_emptyComment_of_unclosed h, all_of_unclosed h]
    rfl
  · intro h
    exact ⟨all_emptyComment_of_unclosed h, all_of_unclosed h⟩
  · rintro inside rest rfl hinside
    exact all_emptyComment_append hinside rest

theorem all_emptyComment_two_blocks :
    (all (emptyComment ++ "\n/** a */ /** b */".toList)).map place =
        (emptyComment ++ "\n/** a ".toList ++ closing, 0) ::
          (all " /** b */".toList).map (fun b => place (b.moved 13)) ∧
      all (emptyComment ++ "\n/** a".toList) = [] ∧ all "\n/** a".toList = [] :=
  ⟨(all_emptyComment _).2.2 "\n/** a ".toList " /** b */".toList rfl (by decide),
    (all_emptyComment _).2.1 (by decide)⟩

theorem emptyComment_takes_block :
    (all ("\n/** a */".toList)).map place = [("/** a */".toList, 1)] ∧
      (all (emptyComment ++ "\n/** a */".toList)).map place = [("/**/\n/** a */".toList, 0)] ∧
      ¬ ∀ s, (all (emptyComment ++ s)).map place = (all s).map fun b => place (b.moved 4) := by
  have halone : (all ("\n/** a */".toList)).map place = [("/** a */".toList, 1)] := by
    decide +kernel
  have hbehind : (all (emptyComment ++ "\n/** a */".toList)).map place =
      [("/**/\n/** a */".toList, 0)] := by decide +kernel
  refine ⟨halone, hbehind, ?_⟩
  intro h
  have hsame := h "\n/** a */".toList
  rw [hbehind] at hsame
  revert hsame
  decide +kernel

end StyleGuide.Block
