import StyleGuide.Proofs.Block.Parts
import StyleGuide.Proofs.Report
import StyleGuide.Source

namespace StyleGuide.Source

theorem readBlock_strict_alike (path : Path) {b b' : Block}
    (h : b.undecorateStrict? = b'.undecorateStrict?) :
    (readBlock .strict path b).Alike (readBlock .strict path b') := by
  simp only [readBlock, h]
  cases b'.undecorateStrict? with
  | none => exact ⟨rfl, rfl⟩
  | some t => exact .refl _

theorem readBlock_moved (dialect : Dialect) (path : Path) (n : Nat) (b : Block) :
    (readBlock dialect path (b.moved n)).Alike (readBlock dialect path b) := by
  cases dialect with
  | permissive => exact .refl _
  | strict => exact readBlock_strict_alike path rfl

theorem read_parts (dialect : Dialect) (path : Path) {a b : Text}
    (hend : a = [] ∨ a.getLast? = some '\n')
    (hquiet : ∀ i, Block.reach a ≤ i → ¬ Text.OccursAt Block.opening i a) :
    (read dialect path (a ++ b)).Alike
      ((read dialect path a).andThen fun cs => (read dialect path b).andThen fun ds =>
        pure (cs ++ ds)) := by
  rw [read, Block.all_append hend hquiet, Outcome.each_append, read, read]
  simp only [Outcome.andThen_assoc, Outcome.pure_andThen, List.filterMap_append]
  apply (Outcome.Alike.refl _).andThen
  intro cs
  rw [Outcome.each_map]
  apply Outcome.Alike.andThen
  · exact .each fun c _ => readBlock_moved dialect path _ c
  · intro ds
    exact .refl _

theorem read_append (dialect : Dialect) (path : Path) (a b : Text)
    (hend : a = [] ∨ a.getLast? = some '\n')
    (hquiet : ∀ i, Block.reach a ≤ i → ¬ Text.OccursAt Block.opening i a) :
    (∀ failure, (read dialect path a).result = .error failure →
        (read dialect path (a ++ b)).result = .error failure ∧
        warnings (read dialect path (a ++ b)).events = warnings (read dialect path a).events) ∧
      ∀ comments, (read dialect path a).result = .ok comments →
        warnings (read dialect path (a ++ b)).events =
            warnings (read dialect path a).events ++ warnings (read dialect path b).events ∧
          (∀ more, (read dialect path b).result = .ok more →
            (read dialect path (a ++ b)).result = .ok (comments ++ more)) ∧
          ∀ failure, (read dialect path b).result = .error failure →
            (read dialect path (a ++ b)).result = .error failure := by
  have hparts := read_parts dialect path hend hquiet (b := b)
  constructor
  · intro failure ha
    rw [Outcome.andThen_error ha] at hparts
    exact ⟨hparts.result, hparts.warnings⟩
  · intro comments ha
    rw [Outcome.andThen_ok ha] at hparts
    cases hb : (read dialect path b).result with
    | error failure =>
      rw [Outcome.andThen_error hb] at hparts
      refine ⟨hparts.warnings.trans (warnings_append _ _), ?_, ?_⟩
      · intro more hmore
        cases hmore
      · intro other hother
        rw [← hother]
        exact hparts.result
    | ok more =>
      rw [Outcome.andThen_ok hb] at hparts
      refine ⟨hparts.warnings.trans ?_, ?_, ?_⟩
      · change warnings (_ ++ (_ ++ [])) = _
        rw [List.append_nil, warnings_append]
      · intro other hother
        obtain rfl := Except.ok.inj hother
        exact hparts.result
      · intro failure hfailure
        cases hfailure

theorem quiet_behind {s t : Text} (hs : Text.byteSize s ≤ Block.reach (s ++ t))
    (ht : ¬ Block.opening <:+: t) :
    ∀ i, Block.reach (s ++ t) ≤ i → ¬ Text.OccursAt Block.opening i (s ++ t) := by
  intro i hi hoccurs
  obtain ⟨k, rfl⟩ := Nat.exists_eq_add_of_le (hs.trans hi)
  obtain ⟨front, rest, rfl, _⟩ := Text.occursAt_append.mp hoccurs
  exact ht (List.infix_append front Block.opening rest)

def documented : Text := "/**\n * A.\n * @id a\n */ /** b */".toList

def broken : Text := "/**\n * @ c\n */".toList

theorem read_append_sheets :
    (read .strict (Text.bytes "a.css".toList) (documented ++ "**\n".toList)).result =
        .ok [⟨"A.".toList, .ofList [("id".toList, .text "a".toList)]⟩] ∧
      (read .strict (Text.bytes "a.css".toList) (documented ++ "**\n".toList ++ broken)).result =
        .error (.malformedParameter (Text.bytes "a.css".toList) "@ c".toList) ∧
      (read .strict (Text.bytes "a.css".toList) (broken ++ "**\n".toList ++ documented)).result =
        .error (.malformedParameter (Text.bytes "a.css".toList) "@ c".toList) := by
  have hdocumented : (read .strict (Text.bytes "a.css".toList)
      (documented ++ "**\n".toList)).result =
      .ok [⟨"A.".toList, .ofList [("id".toList, .text "a".toList)]⟩] := by decide +kernel
  have hbroken : (read .strict (Text.bytes "a.css".toList) broken).result =
      .error (.malformedParameter (Text.bytes "a.css".toList) "@ c".toList) := by decide +kernel
  have hfirst : (read .strict (Text.bytes "a.css".toList) (broken ++ "**\n".toList)).result =
      .error (.malformedParameter (Text.bytes "a.css".toList) "@ c".toList) := by decide +kernel
  refine ⟨hdocumented, ?_, ?_⟩
  · have h := read_append .strict (Text.bytes "a.css".toList) _ broken (Or.inr (by decide))
      (quiet_behind (s := documented) (t := "**\n".toList) (by decide +kernel) (by decide))
    exact (h.2 _ hdocumented).2.2 _ hbroken
  · have h := read_append .strict (Text.bytes "a.css".toList) _ documented (Or.inr (by decide))
      (quiet_behind (s := broken) (t := "**\n".toList) (by decide +kernel) (by decide))
    exact (h.1 _ hfirst).1

end StyleGuide.Source
