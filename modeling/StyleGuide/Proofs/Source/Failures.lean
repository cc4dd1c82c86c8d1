import StyleGuide.Proofs.Comment.Policies
import StyleGuide.Proofs.Report
import StyleGuide.Source

namespace StyleGuide

namespace Source

variable {path : Path} {b : Block} {failure : Failure}

/-- What a strict reading finds wrong with a block of the strict shape: the first nameless line,
or else that there is no id. -/
inductive Fault (path : Path) (b : Block) : Failure → Prop
  | malformed {t line : Text} (ht : b.undecorateStrict? = some t)
      (hline : (Text.lines t).find? Comment.nameless = some line) :
      Fault path b (.malformedParameter path line)
  | missing {t : Text} {reading : Comment.Reading} {c : Comment}
      (ht : b.undecorateStrict? = some t)
      (hlines : ∀ line ∈ Text.lines t, Comment.nameless line = false)
      (hread : Comment.read .reject t = .ok reading) (hc : reading.comment = some c)
      (hid : requiredParameter ∉ c.parameters.keys) :
      Fault path b (.missingParameter path requiredParameter)

theorem requireId_eq_error_iff {oc : Option Comment} :
    (requireId path oc).result = .error failure ↔
      ∃ c, oc = some c ∧ requiredParameter ∉ c.parameters.keys ∧
        failure = .missingParameter path requiredParameter := by
  cases oc with
  | none => simp [requireId, pure]
  | some c =>
    simp only [requireId, ← Dict.contains_iff]
    split_ifs with hid
    · simp [hid]
    · constructor
      · intro h
        exact ⟨c, rfl, hid, (Except.error.inj h).symm⟩
      · rintro ⟨_, _, _, rfl⟩
        rfl

theorem readComment_eq_error_iff {t : Text} :
    (readComment .reject path t).result = .error failure ↔
      ∃ line, (Text.lines t).find? Comment.nameless = some line ∧
        failure = .malformedParameter path line := by
  simp only [← Comment.read_reject_eq_error_iff]
  unfold readComment
  cases Comment.read .reject t <;> simp [Outcome.fail, eq_comm]

theorem readComment_eq_ok_iff {policy : Comment.Policy} {t : Text} {oc : Option Comment} :
    (readComment policy path t).result = .ok oc ↔
      ∃ reading, Comment.read policy t = .ok reading ∧ reading.comment = oc := by
  unfold readComment
  cases Comment.read policy t <;> simp [Outcome.fail]

theorem readBlock_strict_eq_error_iff :
    (readBlock .strict path b).result = .error failure ↔ Fault path b failure := by
  rw [readBlock]
  cases ht : b.undecorateStrict? with
  | none =>
    constructor
    · intro h
      cases h
    · rintro (⟨ht', _⟩ | ⟨ht', _⟩)
      · simp [ht] at ht'
      · simp [ht] at ht'
  | some t =>
    simp only [Outcome.andThen_eq_error_iff, readComment_eq_error_iff, readComment_eq_ok_iff,
      requireId_eq_error_iff]
    constructor
    · rintro (⟨line, hline, rfl⟩ | ⟨_, ⟨reading, hread, rfl⟩, c, hc, hid, rfl⟩)
      · exact .malformed ht hline
      · have hlines := Comment.find?_nameless_of_read_reject hread
        exact .missing ht (by simpa using hlines) hread hc hid
    · rintro (⟨ht', hline⟩ | ⟨ht', _, hread, hc, hid⟩)
      · obtain rfl := Option.some.inj (ht.symm.trans ht')
        exact Or.inl ⟨_, hline, rfl⟩
      · obtain rfl := Option.some.inj (ht.symm.trans ht')
        exact Or.inr ⟨_, ⟨_, hread, rfl⟩, _, hc, hid, rfl⟩

theorem warnings_readBlock_strict (path : Path) (b : Block) :
    warnings (readBlock .strict path b).events = [] := by
  rw [readBlock]
  cases b.undecorateStrict? with
  | none => rfl
  | some t =>
    apply Outcome.warnings_andThen_eq_nil
    · unfold readComment
      cases hread : Comment.read .reject t with
      | error line => rfl
      | ok reading => simp [Comment.dropped_of_read_reject hread, warnings]
    · intro oc
      cases oc with
      | none => rfl
      | some c =>
        rw [requireId]
        split_ifs <;> rfl

theorem comment_of_readBlock_strict {t : Text} {oc : Option Comment}
    (ht : b.undecorateStrict? = some t) (h : (readBlock .strict path b).result = .ok oc) :
    ∃ reading, Comment.read .reject t = .ok reading ∧ reading.comment = oc := by
  simp only [readBlock, ht, Outcome.andThen_eq_ok_iff, readComment_eq_ok_iff] at h
  obtain ⟨_, ⟨reading, hread, rfl⟩, hid⟩ := h
  refine ⟨reading, hread, ?_⟩
  cases hc : reading.comment with
  | none =>
    rw [hc] at hid
    exact Except.ok.inj hid
  | some c =>
    rw [hc, requireId] at hid
    split_ifs at hid
    · exact Except.ok.inj hid
    · cases hid

theorem exists_readings {bs : List Block} {ocs : List (Option Comment)}
    (h : List.Forall₂ (fun b oc => (readBlock .strict path b).result = .ok oc) bs ocs) :
    ∃ readings, List.Forall₂ (fun t reading => Comment.read .reject t = .ok reading)
        (bs.filterMap Block.undecorateStrict?) readings ∧
      ocs.filterMap id = readings.filterMap (·.comment) := by
  induction h with
  | nil => exact ⟨[], .nil, rfl⟩
  | @cons b oc bs ocs hb _ ih =>
    obtain ⟨readings, hreadings, hcomments⟩ := ih
    cases ht : b.undecorateStrict? with
    | none =>
      have hoc : none = oc := by
        simpa [readBlock, ht] using hb
      refine ⟨readings, ?_, ?_⟩
      · rwa [List.filterMap_cons_none ht]
      · rw [← hcomments, ← hoc]
        rfl
    | some t =>
      obtain ⟨reading, hread, rfl⟩ := comment_of_readBlock_strict ht hb
      refine ⟨reading :: readings, ?_, ?_⟩
      · rw [List.filterMap_cons_some ht]
        exact .cons hread hreadings
      · rw [List.filterMap_cons, List.filterMap_cons, hcomments]
        rfl

theorem read_eq_ok_iff {dialect : Dialect} {source : Text} {comments : List Comment} :
    (read dialect path source).result = .ok comments ↔
      ∃ ocs, List.Forall₂ (fun b oc => (readBlock dialect path b).result = .ok oc)
        (Block.all source) ocs ∧ ocs.filterMap id = comments := by
  rw [read, Outcome.andThen_eq_ok_iff]
  simp only [Outcome.each_eq_ok_iff]
  constructor
  · rintro ⟨ocs, hocs, h⟩
    exact ⟨ocs, hocs, Except.ok.inj h⟩
  · rintro ⟨ocs, hocs, rfl⟩
    exact ⟨ocs, hocs, rfl⟩

theorem read_eq_error_iff {dialect : Dialect} {source : Text} :
    (read dialect path source).result = .error failure ↔
      ∃ before b after, Block.all source = before ++ b :: after ∧
        (∀ a ∈ before, ∃ oc, (readBlock dialect path a).result = .ok oc) ∧
        (readBlock dialect path b).result = .error failure := by
  rw [read, Outcome.andThen_eq_error_iff, Outcome.each_eq_error_iff]
  constructor
  · rintro (h | ⟨_, _, h⟩)
    · exact h
    · cases h
  · exact Or.inl

theorem exists_readBlock_strict_iff :
    (∃ oc, (readBlock .strict path b).result = .ok oc) ↔ ∀ failure, ¬ Fault path b failure := by
  simp only [← readBlock_strict_eq_error_iff]
  cases (readBlock .strict path b).result with
  | ok oc => simp
  | error e => simp

theorem warnings_read_strict (path : Path) (source : Text) :
    warnings (read .strict path source).events = [] := by
  apply Outcome.warnings_andThen_eq_nil
  · exact Outcome.warnings_each_eq_nil (warnings_readBlock_strict path) _
  · intro ocs
    rfl

theorem each_permissive (path : Path) (bs : List Block) :
    ∃ readings, List.Forall₂ (fun (b : Block) reading =>
        Comment.read .drop (Block.undecorate b.text) = .ok reading) bs readings ∧
      Outcome.each (readBlock .permissive path) bs =
        ⟨(readings.flatMap (·.dropped)).map fun d => .warning (warningOf path d),
          .ok (readings.map (·.comment))⟩ := by
  induction bs with
  | nil => exact ⟨[], .nil, rfl⟩
  | cons b bs ih =>
    obtain ⟨readings, hreadings, heach⟩ := ih
    obtain ⟨reading, hread⟩ := Comment.exists_read_drop (Block.undecorate b.text)
    refine ⟨reading :: readings, .cons hread hreadings, ?_⟩
    have hblock : readBlock .permissive path b =
        ⟨reading.dropped.map fun d => .warning (warningOf path d), .ok reading.comment⟩ := by
      simp only [readBlock, readComment, hread]
    rw [Outcome.each, hblock, heach, Outcome.andThen_ok rfl, Outcome.andThen_ok rfl,
      List.append_nil, List.flatMap_cons, List.map_append, List.map_cons]

theorem read_permissive (path : Path) (source : Text) :
    ∃ readings, List.Forall₂ (fun (b : Block) reading =>
        Comment.read .drop (Block.undecorate b.text) = .ok reading) (Block.all source) readings ∧
      read .permissive path source =
        ⟨(readings.flatMap (·.dropped)).map fun d => .warning (warningOf path d),
          .ok (readings.filterMap (·.comment))⟩ := by
  obtain ⟨readings, hreadings, heach⟩ := each_permissive path (Block.all source)
  refine ⟨readings, hreadings, ?_⟩
  rw [read, heach, Outcome.andThen_ok rfl, List.filterMap_map]
  exact congrArg (Outcome.mk · _) (List.append_nil _)

theorem read_strict_eq_ok_iff (path : Path) (source : Text) (comments : List Comment) :
    (read .strict path source).result = .ok comments ↔
      (∀ b ∈ Block.all source, ∀ failure, ¬ Fault path b failure) ∧
        ∃ readings, List.Forall₂ (fun t reading => Comment.read .reject t = .ok reading)
            ((Block.all source).filterMap Block.undecorateStrict?) readings ∧
          readings.filterMap (·.comment) = comments := by
  have hfaultless : (∀ b ∈ Block.all source, ∀ failure, ¬ Fault path b failure) ↔
      ∃ ocs, List.Forall₂ (fun b oc => (readBlock .strict path b).result = .ok oc)
        (Block.all source) ocs := by
    simp only [← exists_readBlock_strict_iff, ← Outcome.exists_each_eq_ok_iff,
      Outcome.each_eq_ok_iff]
  rw [read_eq_ok_iff, hfaultless]
  constructor
  · rintro ⟨ocs, hocs, rfl⟩
    obtain ⟨readings, hreadings, hcomments⟩ := exists_readings hocs
    exact ⟨⟨ocs, hocs⟩, readings, hreadings, hcomments.symm⟩
  · rintro ⟨⟨ocs, hocs⟩, readings, hreadings, rfl⟩
    obtain ⟨others, hothers, hcomments⟩ := exists_readings hocs
    have hsame : others = readings := by
      apply List.right_unique_forall₂' _ hothers hreadings
      intro t r r' hr hr'
      exact Except.ok.inj (hr.symm.trans hr')
    exact ⟨ocs, hocs, by rw [hcomments, hsame]⟩

theorem read_strict_eq_error_iff (path : Path) (source : Text) (failure : Failure) :
    (read .strict path source).result = .error failure ↔
      ∃ before b after, Block.all source = before ++ b :: after ∧
        (∀ a ∈ before, ∀ other, ¬ Fault path a other) ∧ Fault path b failure := by
  rw [read_eq_error_iff]
  simp only [exists_readBlock_strict_iff, readBlock_strict_eq_error_iff]

theorem exists_read_strict_eq_error_iff (path : Path) (source : Text) :
    (∃ failure, (read .strict path source).result = .error failure) ↔
      ∃ b ∈ Block.all source, ∃ failure, Fault path b failure := by
  constructor
  · rintro ⟨failure, h⟩
    obtain ⟨before, b, after, hall, _, hfault⟩ := (read_strict_eq_error_iff path source _).mp h
    exact ⟨b, by simp [hall], failure, hfault⟩
  · rintro ⟨b, hb, failure, hfault⟩
    cases hresult : (read .strict path source).result with
    | error e => exact ⟨e, rfl⟩
    | ok comments =>
      have hnone := ((read_strict_eq_ok_iff path source comments).mp hresult).1
      exact absurd hfault (hnone b hb failure)

/-- What is reported of a source, and when there is no result. -/
theorem read_reports (path : Path) (source : Text) :
    (∃ readings, List.Forall₂ (fun (b : Block) reading =>
          Comment.read .drop (Block.undecorate b.text) = .ok reading)
          (Block.all source) readings ∧
        read .permissive path source =
          ⟨(readings.flatMap (·.dropped)).map fun d => .warning (warningOf path d),
            .ok (readings.filterMap (·.comment))⟩) ∧
      warnings (read .strict path source).events = [] ∧
      ((∃ failure, (read .strict path source).result = .error failure) ↔
        ∃ b ∈ Block.all source, ∃ failure, Fault path b failure) ∧
      (∀ failure, (read .strict path source).result = .error failure ↔
        ∃ before b after, Block.all source = before ++ b :: after ∧
          (∀ a ∈ before, ∀ other, ¬ Fault path a other) ∧ Fault path b failure) ∧
      ∀ comments, (read .strict path source).result = .ok comments ↔
        (∀ b ∈ Block.all source, ∀ failure, ¬ Fault path b failure) ∧
          ∃ readings, List.Forall₂ (fun t reading => Comment.read .reject t = .ok reading)
              ((Block.all source).filterMap Block.undecorateStrict?) readings ∧
            readings.filterMap (·.comment) = comments :=
  ⟨read_permissive path source, warnings_read_strict path source,
    exists_read_strict_eq_error_iff path source, read_strict_eq_error_iff path source,
    read_strict_eq_ok_iff path source⟩

end Source

end StyleGuide
