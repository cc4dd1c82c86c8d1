import Mathlib.Data.List.TakeWhile
import StyleGuide.Comment.Reader
import StyleGuide.Proofs.Dict
import StyleGuide.Proofs.Text.Lines

namespace StyleGuide.Comment

def ofPieces (ps : List Text) : Value :=
  if ps.isEmpty then .flag else .text (Text.join [' '] ps)

/-- A line that starts with `@`, with the plain lines up to the next such line. -/
structure Run where
  head : Text
  body : List Text
  deriving DecidableEq

namespace Run

def lines (r : Run) : List Text := r.head :: r.body

def Proper (r : Run) : Prop :=
  startsParameter r.head = true ∧ ∀ line ∈ r.body, startsParameter line = false

def wellFormed (r : Run) : Bool :=
  match r.head with
  | _ :: c :: _ => !Text.isBlank c
  | _ => false

def name (r : Run) : Text := (r.head.drop 1).takeWhile (!Text.isBlank ·)

/-- What is said behind the name and on the lines of the body, without what is blank. -/
def pieces (r : Run) : List Text :=
  (((r.head.drop 1).dropWhile (!Text.isBlank ·) :: r.body).map Text.trim).filter (!·.isEmpty)

def value (r : Run) : Value := ofPieces r.pieces

def dropped (r : Run) : List Dropped :=
  if r.wellFormed then []
  else .malformed r.head :: (r.body.filter fun line => !(Text.trim line).isEmpty).map .orphan

def parameters (rs : List Run) : Parameters :=
  .ofList ((rs.filter wellFormed).map fun r => (r.name, r.value))

end Run

def runs : List Text → List Run
  | [] => []
  | head :: rest =>
    ⟨head, rest.takeWhile (!startsParameter ·)⟩ :: runs (rest.dropWhile (!startsParameter ·))
termination_by lines => lines.length
decreasing_by
  have := (List.dropWhile_sublist (fun line => !startsParameter line) (l := rest)).length_le
  simp only [List.length_cons]
  omega

theorem flatMap_lines_runs (lines : List Text) : (runs lines).flatMap Run.lines = lines := by
  fun_induction runs lines with
  | case1 => rfl
  | case2 head rest ih =>
    rw [List.flatMap_cons, ih, Run.lines, List.cons_append, List.takeWhile_append_dropWhile]

theorem startsParameter_of_mem_head? {lines : List Text} :
    ∀ line ∈ (lines.dropWhile (!startsParameter ·)).head?, startsParameter line = true := by
  intro line hline
  have hstop := List.head?_dropWhile_not (!startsParameter ·) lines
  rw [Option.mem_def.mp hline] at hstop
  simpa using hstop

theorem proper_of_mem_runs {lines : List Text}
    (h : ∀ line ∈ lines.head?, startsParameter line = true) : ∀ r ∈ runs lines, r.Proper := by
  fun_induction runs lines with
  | case1 => simp
  | case2 head rest ih =>
    intro r hr
    rcases List.mem_cons.mp hr with rfl | hr
    · refine ⟨h head rfl, fun line hline => ?_⟩
      simpa using List.mem_takeWhile_imp hline
    · exact ih startsParameter_of_mem_head? r hr

theorem Run.parameter?_head (r : Run) :
    parameter? r.head =
      if r.wellFormed then some (r.name, valueOf ((r.head.drop 1).dropWhile (!Text.isBlank ·)))
      else none := by
  rcases r with ⟨_ | ⟨a, _ | ⟨c, rest⟩⟩, body⟩
  · rfl
  · rfl
  · cases hc : Text.isBlank c <;> simp [parameter?, wellFormed, name, hc]

theorem continued_ofPieces (ps : List Text) (line : Text) :
    continued (ofPieces ps) line = ofPieces (ps ++ [Text.trim line].filter (!·.isEmpty)) := by
  unfold continued
  cases ht : Text.trim line with
  | nil => simp
  | cons c t =>
    cases ps with
    | nil => simp [ofPieces, Text.join]
    | cons p ps =>
      have hj := Text.join_concat [' '] (c :: t) p ps
      simp only [List.cons_append] at hj
      simp [ofPieces, hj]

theorem valueOf_eq_ofPieces (t : Text) :
    valueOf t = ofPieces ([Text.trim t].filter (!·.isEmpty)) := by
  unfold valueOf
  cases Text.trim t <;> simp [ofPieces, Text.join]

theorem foldl_continued (ps body : List Text) :
    body.foldl continued (ofPieces ps) =
      ofPieces (ps ++ (body.map Text.trim).filter (!·.isEmpty)) := by
  induction body generalizing ps with
  | nil => simp
  | cons line body ih =>
    rw [List.foldl_cons, continued_ofPieces, ih, List.append_assoc, ← List.filter_append,
      List.map_cons, List.singleton_append]

theorem Run.value_eq (r : Run) :
    r.value = r.body.foldl continued (valueOf ((r.head.drop 1).dropWhile (!Text.isBlank ·))) := by
  rw [valueOf_eq_ofPieces, foldl_continued, ← List.filter_append]
  rfl

namespace Progress

theorem takeAll_append (policy : Policy) (p : Progress) (xs ys : List Text) :
    p.takeAll policy (xs ++ ys) =
      match p.takeAll policy xs with
      | .ok q => q.takeAll policy ys
      | .error bad => .error bad := by
  induction xs generalizing p with
  | nil => rfl
  | cons x xs ih =>
    simp only [List.cons_append, takeAll]
    cases p.take policy x with
    | ok q => exact ih q
    | error bad => rfl

theorem takeAll_plain (policy : Policy) (p : Progress) (body : List Text)
    (h : ∀ line ∈ body, startsParameter line = false) :
    p.takeAll policy body = .ok (body.foldl takePlain p) := by
  induction body generalizing p with
  | nil => rfl
  | cons line body ih =>
    have hline := h line List.mem_cons_self
    simp only [takeAll, take, hline, Bool.false_eq_true, ↓reduceIte, List.foldl_cons]
    exact ih _ fun l hl => h l (List.mem_cons_of_mem _ hl)

theorem foldl_takePlain_some (name : Text) (d : Parameters) (v : Value) (dropped : List Dropped)
    (body : List Text) :
    body.foldl takePlain ⟨some name, d.insert name v, dropped⟩ =
      ⟨some name, d.insert name (body.foldl continued v), dropped⟩ := by
  induction body generalizing v with
  | nil => rfl
  | cons line body ih =>
    have hstep : takePlain ⟨some name, d.insert name v, dropped⟩ line =
        ⟨some name, d.insert name (continued v line), dropped⟩ := by
      simp [takePlain, Dict.insert_insert]
    rw [List.foldl_cons, hstep, ih, List.foldl_cons]

theorem foldl_takePlain_none (d : Parameters) (dropped : List Dropped) (body : List Text) :
    body.foldl takePlain ⟨none, d, dropped⟩ =
      ⟨none, d, dropped ++ (body.filter fun line => !(Text.trim line).isEmpty).map .orphan⟩ := by
  induction body generalizing dropped with
  | nil => simp
  | cons line body ih =>
    rw [List.foldl_cons]
    by_cases ht : Text.trim line = []
    · simp [takePlain, ht, ih]
    · simp [takePlain, dropLine, ht, ih]

theorem takeAll_wellFormed (policy : Policy) (p : Progress) {r : Run} (hr : r.Proper)
    (hwf : r.wellFormed = true) :
    p.takeAll policy r.lines =
      .ok ⟨some r.name, p.parameters.insert r.name r.value, p.dropped⟩ := by
  have hhead : p.take policy r.head = .ok ⟨some r.name, p.parameters.insert r.name
      (valueOf ((r.head.drop 1).dropWhile (!Text.isBlank ·))), p.dropped⟩ := by
    simp [take, hr.1, r.parameter?_head, hwf]
  rw [Run.lines, takeAll, hhead]
  simp only
  rw [takeAll_plain policy _ _ hr.2, foldl_takePlain_some, Run.value_eq]

theorem takeAll_malformed (p : Progress) {r : Run} (hr : r.Proper) (hwf : r.wellFormed = false) :
    p.takeAll .drop r.lines = .ok ⟨none, p.parameters, p.dropped ++ r.dropped⟩ := by
  have hhead : p.take .drop r.head =
      .ok ⟨none, p.parameters, p.dropped ++ [.malformed r.head]⟩ := by
    simp [take, hr.1, r.parameter?_head, hwf, dropLine]
  rw [Run.lines, takeAll, hhead]
  simp only
  rw [takeAll_plain .drop _ _ hr.2, foldl_takePlain_none]
  simp [Run.dropped, hwf]

theorem takeAll_runs (policy : Policy) (p : Progress) (rs : List Run) (hrs : ∀ r ∈ rs, r.Proper)
    (hwf : ∀ r ∈ rs, policy = .drop ∨ r.wellFormed = true) :
    ∃ current, p.takeAll policy (rs.flatMap Run.lines) =
      .ok ⟨current, ((rs.filter Run.wellFormed).map fun r => (r.name, r.value)).foldl
        (fun d e => d.insert e.1 e.2) p.parameters, p.dropped ++ rs.flatMap Run.dropped⟩ := by
  induction rs generalizing p with
  | nil => exact ⟨p.current, by simp [takeAll]⟩
  | cons r rs ih =>
    have hr := hrs r List.mem_cons_self
    have ih' := fun q => ih q (fun s hs => hrs s (List.mem_cons_of_mem _ hs))
      (fun s hs => hwf s (List.mem_cons_of_mem _ hs))
    rw [List.flatMap_cons, takeAll_append]
    cases hw : r.wellFormed with
    | true =>
      obtain ⟨current, h⟩ := ih' ⟨some r.name, p.parameters.insert r.name r.value, p.dropped⟩
      refine ⟨current, ?_⟩
      rw [takeAll_wellFormed policy p hr hw]
      simp [h, hw, Run.dropped]
    | false =>
      have hp : policy = .drop := (hwf r List.mem_cons_self).resolve_right (by simp [hw])
      subst hp
      obtain ⟨current, h⟩ := ih' ⟨none, p.parameters, p.dropped ++ r.dropped⟩
      refine ⟨current, ?_⟩
      rw [takeAll_malformed p hr hw]
      simp [h, hw]

end Progress

theorem Run.dropped_of_wellFormed {rs : List Run} (h : ∀ r ∈ rs, r.wellFormed = true) :
    rs.flatMap Run.dropped = [] := by
  apply List.flatMap_eq_nil_iff.mpr
  intro r hr
  simp [Run.dropped, h r hr]

theorem span_of_runs {ls front : List Text} {rs : List Run}
    (hlines : ls = front ++ rs.flatMap Run.lines)
    (hfront : ∀ line ∈ front, startsParameter line = false) (hrs : ∀ r ∈ rs, r.Proper) :
    ls.takeWhile (!startsParameter ·) = front ∧
      ls.dropWhile (!startsParameter ·) = rs.flatMap Run.lines := by
  have hstop : (rs.flatMap Run.lines).takeWhile (!startsParameter ·) = [] ∧
      (rs.flatMap Run.lines).dropWhile (!startsParameter ·) = rs.flatMap Run.lines := by
    cases rs with
    | nil => simp
    | cons r rs => simp [Run.lines, (hrs r List.mem_cons_self).1]
  constructor
  · rw [hlines, List.takeWhile_append_of_pos (by simpa using hfront), hstop.1, List.append_nil]
  · rw [hlines, List.dropWhile_append_of_pos (by simpa using hfront), hstop.2]

theorem read_eq_of_runs {policy : Policy} {t : Text} {front : List Text} {rs : List Run}
    (hlines : Text.lines t = front ++ rs.flatMap Run.lines)
    (hfront : ∀ line ∈ front, startsParameter line = false) (hrs : ∀ r ∈ rs, r.Proper)
    (hwf : ∀ r ∈ rs, policy = .drop ∨ r.wellFormed = true) :
    read policy t =
      let comment : Comment := ⟨Text.trim (Text.joinLines front), Run.parameters rs⟩
      .ok ⟨if comment.isEmpty then none else some comment, rs.flatMap Run.dropped⟩ := by
  obtain ⟨htake, hdrop⟩ := span_of_runs hlines hfront hrs
  obtain ⟨current, hall⟩ := Progress.takeAll_runs policy {} rs hrs hwf
  simp only [read, htake, hdrop, hall]
  rfl

/-- The lines of a text cut into the description and the runs behind it. -/
theorem exists_runs (t : Text) :
    ∃ (front : List Text) (rs : List Run), Text.lines t = front ++ rs.flatMap Run.lines ∧
      (∀ line ∈ front, startsParameter line = false) ∧ ∀ r ∈ rs, r.Proper := by
  refine ⟨(Text.lines t).takeWhile (!startsParameter ·),
    runs ((Text.lines t).dropWhile (!startsParameter ·)), ?_, ?_, ?_⟩
  · rw [flatMap_lines_runs, List.takeWhile_append_dropWhile]
  · intro line hline
    simpa using List.mem_takeWhile_imp hline
  · exact proper_of_mem_runs startsParameter_of_mem_head?

theorem Run.get?_parameters (rs : List Run) (name : Text) :
    (Run.parameters rs).get? name =
      ((rs.filter Run.wellFormed).reverse.find? (·.name = name)).map Run.value := by
  rw [Run.parameters, Dict.get?_ofList, ← List.map_reverse, List.find?_map, Option.map_map]
  rfl

theorem Run.mem_keys_parameters (rs : List Run) (name : Text) :
    name ∈ (Run.parameters rs).keys ↔ ∃ r ∈ rs, r.wellFormed = true ∧ r.name = name := by
  rw [Dict.mem_keys_iff, Run.get?_parameters]
  constructor
  · rintro ⟨v, hv⟩
    obtain ⟨r, hr, _⟩ := Option.map_eq_some_iff.mp hv
    have hmem := List.mem_of_find?_eq_some hr
    simp only [List.mem_reverse, List.mem_filter] at hmem
    exact ⟨r, hmem.1, hmem.2, by simpa using List.find?_some hr⟩
  · rintro ⟨r, hr, hwf, hname⟩
    have hsome : ((rs.filter Run.wellFormed).reverse.find? (·.name = name)).isSome := by
      rw [List.find?_isSome]
      exact ⟨r, by simp [hr, hwf], by simpa using hname⟩
    obtain ⟨s, hs⟩ := Option.isSome_iff_exists.mp hsome
    exact ⟨s.value, by simp [hs]⟩

theorem Run.parameters_isEmpty (rs : List Run) :
    (Run.parameters rs).isEmpty = true ↔ ∀ r ∈ rs, r.wellFormed = false := by
  have hkeys : (Run.parameters rs).isEmpty = true ↔ (Run.parameters rs).keys = [] := by
    simp [Dict.isEmpty, Dict.keys]
  rw [hkeys, List.eq_nil_iff_forall_not_mem]
  simp only [Run.mem_keys_parameters]
  constructor
  · intro h r hr
    by_contra hwf
    exact h r.name ⟨r, hr, by simpa using hwf, rfl⟩
  · rintro h name ⟨r, hr, hwf, _⟩
    simp [h r hr] at hwf

/-- Reading and dropping what is malformed depends on the runs alone, one by one. -/
theorem read_drop_eq_runs (t : Text) :
    let description := Text.trim (Text.joinLines ((Text.lines t).takeWhile (!startsParameter ·)))
    let rs := runs ((Text.lines t).dropWhile (!startsParameter ·))
    rs.flatMap Run.lines = (Text.lines t).dropWhile (!startsParameter ·) ∧
      (∀ r ∈ rs, r.Proper) ∧
      ∃ reading, read .drop t = .ok reading ∧ reading.dropped = rs.flatMap Run.dropped ∧
        (reading.comment = none ↔ description = [] ∧ ∀ r ∈ rs, r.wellFormed = false) ∧
        ∀ c, reading.comment = some c → c.description = description ∧
          (∀ name, name ∈ c.parameters.keys ↔ ∃ r ∈ rs, r.wellFormed = true ∧ r.name = name) ∧
          ∀ name, c.parameters.get? name =
            ((rs.filter Run.wellFormed).reverse.find? (·.name = name)).map Run.value := by
  intro description rs
  have hcut : rs.flatMap Run.lines = (Text.lines t).dropWhile (!startsParameter ·) :=
    flatMap_lines_runs _
  have hproper : ∀ r ∈ rs, r.Proper := proper_of_mem_runs startsParameter_of_mem_head?
  have hlines : Text.lines t =
      (Text.lines t).takeWhile (!startsParameter ·) ++ rs.flatMap Run.lines := by
    rw [hcut, List.takeWhile_append_dropWhile]
  have hfront : ∀ line ∈ (Text.lines t).takeWhile (!startsParameter ·),
      startsParameter line = false := by
    intro line hline
    simpa using List.mem_takeWhile_imp hline
  have hread := read_eq_of_runs hlines hfront hproper fun _ _ => Or.inl rfl
  refine ⟨hcut, hproper, _, hread, rfl, ?_, ?_⟩
  · simp [isEmpty, Run.parameters_isEmpty, description]
  · intro c hc
    have hc' : c = ⟨description, Run.parameters rs⟩ := by
      dsimp only at hc
      split at hc
      · cases hc
      · exact (Option.some.inj hc).symm
    subst hc'
    exact ⟨rfl, Run.mem_keys_parameters rs, Run.get?_parameters rs⟩

end StyleGuide.Comment
