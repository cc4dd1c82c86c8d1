import StyleGuide.Proofs.Comment.Runs

namespace StyleGuide.Comment

/-- Whether a line starts with `@` and has no name behind it: it ends there, or a blank follows. -/
def nameless : Text → Bool
  | ['@'] => true
  | '@' :: c :: _ => Text.isBlank c
  | _ => false

theorem nameless_eq (line : Text) :
    nameless line = (startsParameter line && (parameter? line).isNone) := by
  match line with
  | [] => rfl
  | [c] => by_cases hc : c = '@' <;> simp [nameless, startsParameter, parameter?, hc]
  | c :: d :: rest =>
    by_cases hc : c = '@'
    · cases hd : Text.isBlank d <;> simp [nameless, startsParameter, parameter?, hc, hd]
    · simp [nameless, startsParameter, hc]

theorem find?_nameless_dropWhile (lines : List Text) :
    (lines.dropWhile (!startsParameter ·)).find? nameless = lines.find? nameless := by
  conv_rhs => rw [← List.takeWhile_append_dropWhile (p := (!startsParameter ·)) (l := lines)]
  have hfront : (lines.takeWhile (!startsParameter ·)).find? nameless = none := by
    rw [List.find?_eq_none]
    intro line hline
    have hplain := List.mem_takeWhile_imp hline
    rw [nameless_eq]
    simp_all
  rw [List.find?_append, hfront, Option.none_or]

namespace Progress

variable {policy : Policy} {p q : Progress} {line : Text} {lines : List Text}

theorem take_reject (p : Progress) (line : Text) :
    p.take .reject line = if nameless line then .error line else p.take .drop line := by
  rw [nameless_eq]
  unfold take
  cases startsParameter line with
  | false => rfl
  | true => cases parameter? line <;> rfl

theorem exists_take_drop (p : Progress) (line : Text) : ∃ q, p.take .drop line = .ok q := by
  unfold take
  cases startsParameter line with
  | false => exact ⟨_, rfl⟩
  | true => cases parameter? line <;> exact ⟨_, rfl⟩

theorem takeAll_reject (p : Progress) (lines : List Text) :
    p.takeAll .reject lines =
      match lines.find? nameless with
      | some line => .error line
      | none => p.takeAll .drop lines := by
  induction lines generalizing p with
  | nil => rfl
  | cons line lines ih =>
    obtain ⟨q, hq⟩ := p.exists_take_drop line
    rw [takeAll, takeAll, take_reject, hq, List.find?_cons]
    cases nameless line with
    | true => rfl
    | false => exact ih q

theorem exists_takeAll_drop (p : Progress) (lines : List Text) :
    ∃ q, p.takeAll .drop lines = .ok q := by
  induction lines generalizing p with
  | nil => exact ⟨p, rfl⟩
  | cons line lines ih =>
    obtain ⟨q, hq⟩ := p.exists_take_drop line
    rw [takeAll, hq]
    exact ih q

theorem dropped_prefix_takePlain (p : Progress) (line : Text) :
    p.dropped <+: (p.takePlain line).dropped := by
  unfold takePlain dropLine
  split
  · split <;> exact List.prefix_rfl
  · split
    · exact List.prefix_rfl
    · exact List.prefix_append _ _

theorem takePlain_open (hp : p.current.isSome) :
    (p.takePlain line).current.isSome ∧ (p.takePlain line).dropped = p.dropped := by
  obtain ⟨name, hname⟩ := Option.isSome_iff_exists.mp hp
  simp only [takePlain, hname]
  split
  · exact ⟨rfl, rfl⟩
  · exact ⟨hp, rfl⟩

theorem dropped_prefix_of_take (h : p.take policy line = .ok q) : p.dropped <+: q.dropped := by
  unfold take dropLine at h
  split at h
  · split at h
    · obtain rfl := Except.ok.inj h
      exact List.prefix_rfl
    · obtain rfl := Except.ok.inj h
      exact List.prefix_append _ _
    · cases h
  · obtain rfl := Except.ok.inj h
    exact p.dropped_prefix_takePlain line

theorem dropped_prefix_of_takeAll (h : p.takeAll policy lines = .ok q) : p.dropped <+: q.dropped := by
  induction lines generalizing p with
  | nil =>
    obtain rfl := Except.ok.inj h
    exact List.prefix_rfl
  | cons line lines ih =>
    rw [takeAll] at h
    split at h
    · rename_i next hnext
      exact (dropped_prefix_of_take hnext).trans (ih h)
    · cases h

/-- With a parameter open, or at a line that starts with `@`, no line is an orphan. -/
theorem take_drop_of_open (hp : p.current.isSome ∨ startsParameter line = true)
    (h : p.take .drop line = .ok q) :
    nameless line = true ∧ q.dropped = p.dropped ++ [.malformed line] ∨
      nameless line = false ∧ q.current.isSome ∧ q.dropped = p.dropped := by
  rw [nameless_eq]
  unfold take dropLine at h
  cases hline : startsParameter line with
  | false =>
    simp only [hline, Bool.false_eq_true, ↓reduceIte, Except.ok.injEq] at h
    subst h
    exact Or.inr ⟨rfl, takePlain_open (hp.resolve_right (by simp [hline]))⟩
  | true =>
    simp only [hline, ↓reduceIte] at h
    cases hname : parameter? line with
    | none =>
      simp only [hname, Except.ok.injEq] at h
      subst h
      exact Or.inl ⟨rfl, rfl⟩
    | some entry =>
      simp only [hname, Except.ok.injEq] at h
      subst h
      exact Or.inr ⟨rfl, rfl, rfl⟩

/-- What is dropped first is the first nameless line. -/
theorem head?_dropped_takeAll
    (hp : p.current.isSome ∨ ∀ line ∈ lines.head?, startsParameter line = true)
    (hnone : p.dropped = []) (h : p.takeAll .drop lines = .ok q) :
    q.dropped.head? = (lines.find? nameless).map .malformed := by
  induction lines generalizing p with
  | nil =>
    obtain rfl := Except.ok.inj h
    simp [hnone]
  | cons line lines ih =>
    obtain ⟨next, hnext⟩ := p.exists_take_drop line
    rw [takeAll, hnext] at h
    have hline : p.current.isSome ∨ startsParameter line = true := hp.imp_right fun hp => hp line rfl
    rcases take_drop_of_open hline hnext with ⟨hbad, hdropped⟩ | ⟨hgood, hopen, hdropped⟩
    · obtain ⟨more, hmore⟩ := dropped_prefix_of_takeAll h
      simp [← hmore, hdropped, hnone, hbad]
    · rw [List.find?_cons_of_neg (by simp [hgood])]
      exact ih (Or.inl hopen) (hdropped.trans hnone) h

end Progress

theorem read_reject_eq (t : Text) :
    read .reject t =
      match (Text.lines t).find? nameless with
      | some line => .error line
      | none => read .drop t := by
  rw [read, Progress.takeAll_reject, find?_nameless_dropWhile]
  cases (Text.lines t).find? nameless <;> rfl

theorem exists_read_drop (t : Text) : ∃ reading, read .drop t = .ok reading := by
  obtain ⟨p, hp⟩ :=
    Progress.exists_takeAll_drop {} ((Text.lines t).dropWhile (!startsParameter ·))
  exact ⟨_, by rw [read, hp]⟩

theorem head?_dropped_of_read_drop {t : Text} {reading : Reading}
    (h : read .drop t = .ok reading) :
    reading.dropped.head? = ((Text.lines t).find? nameless).map .malformed := by
  obtain ⟨p, hp⟩ :=
    Progress.exists_takeAll_drop {} ((Text.lines t).dropWhile (!startsParameter ·))
  have hfirst := Progress.head?_dropped_takeAll (Or.inr startsParameter_of_mem_head?) rfl hp
  rw [read, hp] at h
  obtain rfl := Except.ok.inj h
  rwa [find?_nameless_dropWhile] at hfirst

theorem read_reject_or (t : Text) :
    (∃ reading, read .reject t = .ok reading ∧ read .drop t = .ok reading ∧
        reading.dropped = []) ∨
      ∃ line reading more, read .reject t = .error line ∧ read .drop t = .ok reading ∧
        reading.dropped = .malformed line :: more := by
  obtain ⟨reading, hdrop⟩ := exists_read_drop t
  have hfirst := head?_dropped_of_read_drop hdrop
  rw [read_reject_eq, hdrop]
  cases hfind : (Text.lines t).find? nameless with
  | none =>
    rw [hfind, Option.map_none, List.head?_eq_none_iff] at hfirst
    exact Or.inl ⟨reading, rfl, rfl, hfirst⟩
  | some line =>
    rw [hfind, Option.map_some, List.head?_eq_some_iff] at hfirst
    obtain ⟨more, hmore⟩ := hfirst
    exact Or.inr ⟨line, reading, more, rfl, rfl, hmore⟩

theorem read_reject_eq_error_iff {t line : Text} :
    read .reject t = .error line ↔ (Text.lines t).find? nameless = some line := by
  obtain ⟨reading, hdrop⟩ := exists_read_drop t
  rw [read_reject_eq, hdrop]
  cases (Text.lines t).find? nameless <;> simp

theorem find?_nameless_of_read_reject {t : Text} {reading : Reading}
    (h : read .reject t = .ok reading) : (Text.lines t).find? nameless = none := by
  cases hfind : (Text.lines t).find? nameless with
  | none => rfl
  | some line =>
    rw [read_reject_eq_error_iff.mpr hfind] at h
    cases h

theorem read_drop_of_read_reject {t : Text} {reading : Reading}
    (h : read .reject t = .ok reading) : read .drop t = .ok reading := by
  have hread := read_reject_eq t
  rw [find?_nameless_of_read_reject h] at hread
  exact hread.symm.trans h

theorem dropped_of_read_reject {t : Text} {reading : Reading} (h : read .reject t = .ok reading) :
    reading.dropped = [] := by
  have hfirst := head?_dropped_of_read_drop (read_drop_of_read_reject h)
  rwa [find?_nameless_of_read_reject h, Option.map_none, List.head?_eq_none_iff] at hfirst

/-- The policies describe one reader: refusing is stopping at the first thing that would be
dropped, which is never an orphan. -/
theorem read_reject_refines_drop (t : Text) :
    ∃ reading, read .drop t = .ok reading ∧
      ((∃ other, read .reject t = .ok other) ↔ reading.dropped = []) ∧
      match reading.dropped with
      | [] => read .reject t = .ok reading
      | first :: _ => ∃ line, first = .malformed line ∧ read .reject t = .error line := by
  rcases read_reject_or t with ⟨reading, hreject, hdrop, hnone⟩ |
    ⟨line, reading, more, hreject, hdrop, hfirst⟩
  · refine ⟨reading, hdrop, ?_, ?_⟩
    · simp [hreject, hnone]
    · rw [hnone]
      exact hreject
  · refine ⟨reading, hdrop, ?_, ?_⟩
    · simp [hreject, hfirst]
    · rw [hfirst]
      exact ⟨line, rfl, hreject⟩

end StyleGuide.Comment
