import StyleGuide.Proofs.Comment.Runs

namespace StyleGuide.Comment

def readingOf (front : List Text) (rs : List Run) : Reading :=
  let comment : Comment := ⟨Text.trim (Text.joinLines front), Run.parameters rs⟩
  ⟨if comment.isEmpty then none else some comment, rs.flatMap Run.dropped⟩

theorem eq_of_isEmpty {c d : Comment} (hc : c.isEmpty = true) (hd : d.isEmpty = true) : c = d := by
  obtain ⟨cdesc, ⟨centries, casc⟩⟩ := c
  obtain ⟨ddesc, ⟨dentries, dasc⟩⟩ := d
  simp only [isEmpty, Dict.isEmpty, Bool.and_eq_true, List.isEmpty_iff] at hc hd
  simp [hc, hd]

theorem readingOf_eq_iff {front front' : List Text} {rs rs' : List Run} :
    readingOf front rs = readingOf front' rs' ↔
      Text.trim (Text.joinLines front) = Text.trim (Text.joinLines front') ∧
        Run.parameters rs = Run.parameters rs' ∧
        rs.flatMap Run.dropped = rs'.flatMap Run.dropped := by
  constructor
  · intro h
    simp only [readingOf, Reading.mk.injEq] at h
    obtain ⟨hcomment, hdropped⟩ := h
    have hsame : (⟨Text.trim (Text.joinLines front), Run.parameters rs⟩ : Comment) =
        ⟨Text.trim (Text.joinLines front'), Run.parameters rs'⟩ := by
      split_ifs at hcomment with hc hd
      · exact eq_of_isEmpty hc hd
      · exact Option.some.inj hcomment
    simp only [Comment.mk.injEq] at hsame
    exact ⟨hsame.1, hsame.2, hdropped⟩
  · rintro ⟨hdescription, hparameters, hdropped⟩
    rw [readingOf, readingOf, hdescription, hparameters, hdropped]

namespace Run

def extended (r : Run) (line : Text) : Run := ⟨r.head, r.body ++ [line]⟩

theorem Proper.extended {r : Run} (h : r.Proper) {line : Text}
    (hline : startsParameter line = false) : (r.extended line).Proper := by
  refine ⟨h.1, ?_⟩
  intro l hl
  rcases List.mem_append.mp hl with hl | hl
  · exact h.2 l hl
  · rw [List.mem_singleton.mp hl, hline]

theorem lines_extended (r : Run) (line : Text) :
    (r.extended line).lines = r.lines ++ [line] := rfl

theorem pieces_extended (r : Run) (line : Text) :
    (r.extended line).pieces = r.pieces ++ [Text.trim line].filter (!·.isEmpty) := by
  rw [pieces, pieces, extended, ← List.cons_append, List.map_append, List.filter_append]
  rfl

theorem dropped_extended {r : Run} (h : r.wellFormed = false) (line : Text) :
    (r.extended line).dropped =
      r.dropped ++ ([line].filter fun l => !(Text.trim l).isEmpty).map .orphan := by
  have hsame : (r.extended line).wellFormed = false := h
  simp only [dropped, h, hsame, Bool.false_eq_true, ↓reduceIte]
  rw [extended, List.filter_append, List.map_append, List.cons_append]

theorem value_extended_eq_iff (r : Run) (line : Text) :
    (r.extended line).value = r.value ↔ Text.trim line = [] := by
  rw [value, value, pieces_extended]
  constructor
  · intro h
    by_contra hline
    have hkeep : [Text.trim line].filter (!·.isEmpty) = [Text.trim line] := by simp [hline]
    rw [hkeep] at h
    cases hp : r.pieces with
    | nil => simp [hp, ofPieces] at h
    | cons p ps =>
      have hjoin := Text.join_concat [' '] (Text.trim line) p ps
      have hlen := congrArg List.length hjoin
      simp only [hp, ofPieces, List.cons_append, List.isEmpty_cons, Bool.false_eq_true, ↓reduceIte,
        Value.text.injEq] at h
      rw [← List.cons_append] at h
      rw [h] at hlen
      simp only [List.length_append, List.length_cons, List.length_nil] at hlen
      omega
  · intro h
    simp [h]

theorem parameters_concat {rs : List Run} {r s : Run} (hname : r.name = s.name)
    (hr : r.wellFormed = true) (hs : s.wellFormed = true) :
    parameters (rs ++ [r]) = parameters (rs ++ [s]) ↔ r.value = s.value := by
  constructor
  · intro h
    have hget := congrArg (Dict.get? · r.name) h
    simpa [get?_parameters, hr, hs, hname] using hget
  · intro h
    simp [parameters, hr, hs, hname, h]

theorem parameters_concat_malformed (rs : List Run) {r : Run} (hr : r.wellFormed = false) :
    parameters (rs ++ [r]) = parameters rs := by
  simp [parameters, hr]

end Run

theorem read_drop_concat_iff {s t line : Text} (h : Text.lines s = Text.lines t ++ [line])
    (hline : startsParameter line = false) :
    read .drop s = read .drop t ↔ Text.trim line = [] := by
  obtain ⟨front, rs, hlines, hfront, hrs⟩ := exists_runs t
  have ht : read .drop t = .ok (readingOf front rs) :=
    read_eq_of_runs hlines hfront hrs fun _ _ => Or.inl rfl
  rcases List.eq_nil_or_concat' rs with rfl | ⟨rs, r, rfl⟩
  · -- There is no parameter yet, so the line belongs to the description.
    have hs : read .drop s = .ok (readingOf (front ++ [line]) []) := by
      refine read_eq_of_runs ?_ ?_ (by simp) fun _ _ => Or.inl rfl
      · simp [h, hlines]
      · intro l hl
        rcases List.mem_append.mp hl with hl | hl
        · exact hfront l hl
        · rw [List.mem_singleton.mp hl, hline]
    rw [hs, ht, Except.ok.injEq, readingOf_eq_iff]
    simp only [and_true]
    exact Text.trim_joinLines_concat front line
  · have hr : r.Proper := hrs r (by simp)
    have hs : read .drop s = .ok (readingOf front (rs ++ [r.extended line])) := by
      refine read_eq_of_runs ?_ hfront ?_ fun _ _ => Or.inl rfl
      · simp [h, hlines, Run.lines_extended]
      · intro q hq
        rcases List.mem_append.mp hq with hq | hq
        · exact hrs q (List.mem_append_left _ hq)
        · rw [List.mem_singleton.mp hq]
          exact hr.extended hline
    rw [hs, ht, Except.ok.injEq, readingOf_eq_iff]
    cases hw : r.wellFormed with
    | true =>
      have hw' : (r.extended line).wellFormed = true := hw
      have hname : (r.extended line).name = r.name := rfl
      rw [Run.parameters_concat hname hw' hw, Run.value_extended_eq_iff]
      simp [Run.dropped, hw, hw']
    | false =>
      have hw' : (r.extended line).wellFormed = false := hw
      rw [Run.parameters_concat_malformed rs hw, Run.parameters_concat_malformed rs hw']
      simp [Run.dropped_extended hw]

theorem read_congr {policy : Policy} {s t : Text} (h : Text.lines s = Text.lines t) :
    read policy s = read policy t := by
  simp only [read, h]

theorem read_joinLines_concat_nil {ls : List Text} (h : ∀ line ∈ ls, Text.Unbroken line) :
    read .drop (Text.joinLines (ls ++ [[]])) = read .drop (Text.joinLines ls) := by
  have hends := Text.lines_joinLines_concat_nil h
  rcases List.eq_nil_or_concat' ls with rfl | ⟨front, line, rfl⟩
  · rfl
  · by_cases hline : line = []
    · subst hline
      have hfront := Text.lines_joinLines_concat_nil fun l hl => h l (List.mem_append_left _ hl)
      exact (read_drop_concat_iff (hends.trans (by rw [hfront])) rfl).mpr rfl
    · apply read_congr
      rw [hends, Text.lines_joinLines h (by simp [hline])]

theorem read_joinLines_concat_iff {ls : List Text} {line : Text}
    (h : ∀ l ∈ ls ++ [line], Text.Unbroken l) (hline : startsParameter line = false)
    (hne : line ≠ []) :
    read .drop (Text.joinLines (ls ++ [line])) = read .drop (Text.joinLines ls) ↔
      Text.trim line = [] := by
  have hls : ∀ l ∈ ls, Text.Unbroken l := fun l hl => h l (List.mem_append_left _ hl)
  rw [← read_joinLines_concat_nil hls]
  apply read_drop_concat_iff _ hline
  rw [Text.lines_joinLines h (by simp [hne]), Text.lines_joinLines_concat_nil hls]

end StyleGuide.Comment
