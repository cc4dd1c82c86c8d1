import StyleGuide.Proofs.Block.Closing
import StyleGuide.Proofs.Text.Spacing

namespace StyleGuide.Block

open Text (byteSize pare returned)

/-- What comes before the next block of a text, what is inside the block, and what is behind it. -/
def around? (t : Text) : Option (Text × Text × Text) :=
  (Text.cut? opening t).bind fun p => (Text.cut? closing p.2).map fun q => (p.1, q)

theorem eq_of_around? {t front inside rest : Text} (h : around? t = some (front, inside, rest)) :
    t = front ++ (opening ++ inside ++ closing) ++ rest := by
  obtain ⟨⟨f, body⟩, hopen, hbody⟩ := Option.bind_eq_some_iff.mp h
  obtain ⟨⟨x, r⟩, hclose, heq⟩ := Option.map_eq_some_iff.mp hbody
  obtain ⟨rfl, rfl, rfl⟩ : f = front ∧ x = inside ∧ r = rest := by simpa using heq
  dsimp only at hclose
  rw [Text.eq_of_cut? hopen, Text.eq_of_cut? hclose]
  simp

theorem around?_map {s t : Text} {front inside behind : Text → Text}
    (hopen : Text.cut? opening s = (Text.cut? opening t).map (Prod.map front behind))
    (hclose : ∀ u, Text.cut? closing (behind u) =
      (Text.cut? closing u).map (Prod.map inside behind)) :
    around? s = (around? t).map (Prod.map front (Prod.map inside behind)) := by
  rw [around?, around?, hopen]
  cases Text.cut? opening t with
  | none => rfl
  | some p =>
    change (Text.cut? closing (behind p.2)).map _ = ((Text.cut? closing p.2).map _).map _
    rw [hclose, Option.map_map, Option.map_map]
    rfl

theorem solid_opening : Text.Solid opening := by simp [Text.Solid, opening, Text.isBlank]

theorem solid_closing : Text.Solid closing := by simp [Text.Solid, closing, Text.isBlank]

theorem around?_returned (t : Text) :
    around? (returned t) = (around? t).map (Prod.map returned (Prod.map returned returned)) :=
  around?_map (Text.cut?_returned solid_opening (by decide) t)
    (Text.cut?_returned solid_closing (by decide))

theorem around?_pare (fresh closed : Bool) (t : Text) :
    around? (pare fresh closed t) =
      (around? t).map
        (Prod.map (pare fresh false) (Prod.map (pare false false) (pare false closed))) :=
  around?_map (Text.cut?_pare solid_opening (by decide) fresh closed t)
    (Text.cut?_pare solid_closing (by decide) false closed)

namespace Cursor

theorem next_eq (c : Cursor) :
    c.next =
      match around? c.rest with
      | none => (none, c.next.2)
      | some (front, inside, rest) =>
        (some ⟨opening ++ inside ++ closing, c.offset + byteSize front,
            front.getLast?.elim c.startsLine (decide <| · = '\n')⟩,
          ⟨rest, c.offset + byteSize front + byteSize (opening ++ inside ++ closing), false⟩) := by
  rw [next, around?]
  cases Text.cut? opening c.rest with
  | none => rfl
  | some p =>
    obtain ⟨front, body⟩ := p
    simp only [Option.bind_some]
    cases Text.cut? closing body with
    | none => rfl
    | some q => cases hlast : front.getLast? <;> simp [hlast]

variable {R : Cursor → Cursor → Prop} {S : Block → Block → Prop} {c d : Cursor}

/-- Two cursors that stay alike with every step come upon like blocks. -/
theorem forall₂_blocks
    (h : ∀ c d, R c d → c.next.1 = none ∧ d.next.1 = none ∨
      ∃ b b', c.next.1 = some b ∧ d.next.1 = some b' ∧ S b b' ∧ R c.next.2 d.next.2)
    (hcd : R c d) : List.Forall₂ S c.blocks d.blocks := by
  fun_induction blocks c generalizing d with
  | case1 c c' hc =>
    rcases h c d hcd with ⟨_, hd⟩ | ⟨b, b', hb, _⟩
    · rw [blocks_of_next_none (Prod.ext hd rfl)]
      exact .nil
    · rw [hc] at hb
      cases hb
  | case2 c b c' hc ih =>
    rcases h c d hcd with ⟨hnone, _⟩ | ⟨b₁, b', hb, hb', hlike, hnext⟩
    · rw [hc] at hnone
      cases hnone
    · rw [hc] at hb hnext
      obtain rfl := Option.some.inj hb
      rw [blocks_of_next (Prod.ext hb' rfl)]
      exact .cons hlike (ih hnext)

end Cursor

theorem undecorateStrict?_returned {b b' : Block} (h : '\r' ∉ b.text)
    (htext : b'.text = returned b.text) (hline : b'.startsLine = b.startsLine) :
    b.undecorateStrict? = b'.undecorateStrict? := by
  rw [undecorateStrict?, undecorateStrict?, htext, hline, Text.lines_returned h]

theorem undecorateStrict?_all_returned {source : Text} (h : '\r' ∉ source) :
    List.Forall₂ (fun b b' : Block => b.undecorateStrict? = b'.undecorateStrict?)
      (all source) (all (returned source)) := by
  refine Cursor.forall₂_blocks (R := fun c d => '\r' ∉ c.rest ∧ d.rest = returned c.rest ∧
    d.startsLine = c.startsLine) ?_ ⟨h, rfl, rfl⟩
  rintro c d ⟨hreturn, hrest, hline⟩
  rw [c.next_eq, d.next_eq, hrest, around?_returned]
  cases haround : around? c.rest with
  | none => exact Or.inl ⟨rfl, rfl⟩
  | some p =>
    obtain ⟨front, inside, rest⟩ := p
    have hsplit := eq_of_around? haround
    rw [hsplit, List.mem_append, List.mem_append, not_or, not_or] at hreturn
    refine Or.inr ⟨_, _, rfl, rfl, undecorateStrict?_returned hreturn.1.2 ?_ ?_, hreturn.2, rfl, rfl⟩
    · simp [Text.returned_append, opening, closing, returned]
    · simp [Text.getLast?_returned, hline]

theorem newline_not_suffix_closing (t : Text) : ¬ ['\n'] <:+ t ++ closing := by
  rintro ⟨front, h⟩
  have hlast := congrArg List.getLast? h
  simp [closing] at hlast

theorem pare_block (inside : Text) :
    pare true true (opening ++ inside ++ closing) = opening ++ pare false false inside ++ closing := by
  have hslash : Text.isBlank '/' = false := rfl
  have hstar : Text.isBlank '*' = false := rfl
  have hbody : pare false true (inside ++ closing) = pare false false inside ++ closing := by
    rw [closing, Text.pare_append_cons hstar]
    simp [pare, hslash]
  rw [opening, List.append_assoc]
  simp [pare, hslash, hstar, hbody]

theorem undecorate_pare_inside (inside : Text) :
    undecorate (opening ++ pare false false inside ++ closing) =
      undecorate (opening ++ inside ++ closing) := by
  have hkept : kept ∘ Text.trim = kept := funext fun line => kept_congr (Text.trim_trim line)
  rw [undecorate_eq_pieces (newline_not_suffix_closing _),
    undecorate_eq_pieces (newline_not_suffix_closing _), ← pare_block, Text.pieces_pare,
    List.flatMap_map, ← Function.comp_def, hkept]

theorem undecorate_all_pare (source : Text) :
    List.Forall₂ (fun b b' : Block => undecorate b.text = undecorate b'.text)
      (all source) (all (pare true true source)) := by
  refine Cursor.forall₂_blocks (R := fun c d => ∃ fresh, d.rest = pare fresh true c.rest) ?_
    ⟨true, rfl⟩
  rintro c d ⟨fresh, hrest⟩
  rw [c.next_eq, d.next_eq, hrest, around?_pare]
  cases around? c.rest with
  | none => exact Or.inl ⟨rfl, rfl⟩
  | some p =>
    obtain ⟨front, inside, rest⟩ := p
    exact Or.inr ⟨_, _, rfl, rfl, (undecorate_pare_inside inside).symm, false, rfl⟩

end StyleGuide.Block
