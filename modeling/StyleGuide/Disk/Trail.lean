import StyleGuide.Disk.Follow

/-!
Following steps with the way back at hand. A walk along a trail ends where following the steps from
its place ends.
-/

namespace StyleGuide.Disk

/-- A node with the way to it from the root. -/
structure Trail where
  node : Node
  /-- The directories above it, the nearest first, each with the name that was taken in it. -/
  above : List (Bytes × Node) := []

namespace Trail

def place (t : Trail) : List Bytes := (t.above.map Prod.fst).reverse

/-- One directory back; the root is above itself. -/
def up (t : Trail) : Trail :=
  match t.above with
  | [] => t
  | (_, parent) :: above => ⟨parent, above⟩

def down (t : Trail) (name : Bytes) (n : Node) : Trail := ⟨n, (name, t.node) :: t.above⟩

/-- The trail that goes on to a place below. -/
def extend? (t : Trail) : List Bytes → Option Trail
  | [] => some t
  | name :: place =>
    match t.node with
    | .dir entries => (entries.lookup name).bind fun n => (t.down name n).extend? place
    | _ => none

/-- Follows steps with the way back at hand, so that no step starts again from the root. -/
def walk (root : Node) (last : Last) (links : Nat) (t : Trail) (path : List Bytes) :
    Except Trouble (List Bytes) :=
  match path with
  | [] => .ok t.place
  | step :: rest =>
    match t.node with
    | .dir entries =>
      if step = [Path.dot] then walk root last links t rest
      else if step = [Path.dot, Path.dot] then walk root last links t.up rest
      else if maxName < step.length then .error .nameTooLong
      else match entries.lookup step with
        | none =>
          if rest.isEmpty ∧ last = .create then .ok (t.place ++ [step]) else .error .noEntry
        | some (.link target) =>
          if rest.isEmpty ∧ last = .keep then .ok (t.place ++ [step])
          else match links with
            | 0 => .error .tooManyLinks
            | links + 1 =>
              walk root last links (if Path.isAbsolute target then ⟨root, []⟩ else t)
                (steps target ++ rest)
        | some n => walk root last links (t.down step n) rest
    | _ => .error .notDirectory
termination_by (links, path.length)

/-- Whether each node of the trail is where the one above it has it, up to the root. -/
def Leads (root : Node) (t : Trail) : Prop :=
  match t with
  | ⟨n, []⟩ => n = root
  | ⟨n, (name, parent) :: above⟩ =>
    (∃ entries, parent = .dir entries ∧ entries.lookup name = some n) ∧ Leads root ⟨parent, above⟩
termination_by t.above.length

theorem leads_root (root : Node) : Leads root ⟨root, []⟩ := by simp [Leads]

theorem Leads.down {root : Node} {t : Trail} (h : t.Leads root) {entries : List (Bytes × Node)}
    (ht : t.node = .dir entries) {name : Bytes} {n : Node} (hn : entries.lookup name = some n) :
    (t.down name n).Leads root := by
  rw [Trail.down, Leads]
  exact ⟨⟨entries, ht, hn⟩, h⟩

theorem Leads.up {root : Node} {t : Trail} (h : t.Leads root) : t.up.Leads root := by
  obtain ⟨n, above⟩ := t
  cases above with
  | nil => exact h
  | cons e above =>
    rw [Leads] at h
    exact h.2

theorem Leads.get?_place_append {root n : Node} {above : List (Bytes × Node)}
    (h : Leads root ⟨n, above⟩) (more : List Bytes) :
    root.get? (place ⟨n, above⟩ ++ more) = n.get? more := by
  induction above generalizing n more with
  | nil =>
    rw [Leads] at h
    simp [place, h]
  | cons e above ih =>
    rw [Leads] at h
    obtain ⟨⟨entries, he, hn⟩, h⟩ := h
    have := ih h (e.1 :: more)
    simpa [place, Node.get?, he, hn] using this

theorem Leads.get?_place {root : Node} {t : Trail} (h : t.Leads root) :
    root.get? t.place = some t.node := by
  simpa [Node.get?] using h.get?_place_append []

theorem place_up (t : Trail) : t.up.place = t.place.dropLast := by
  obtain ⟨n, above⟩ := t
  cases above <;> simp [up, place]

theorem place_down (t : Trail) (name : Bytes) (n : Node) :
    (t.down name n).place = t.place ++ [name] := by
  simp [down, place]

theorem leads_of_extend? {root : Node} {t u : Trail} (h : t.Leads root) {place : List Bytes}
    (hu : t.extend? place = some u) : u.Leads root ∧ u.place = t.place ++ place := by
  induction place generalizing t with
  | nil =>
    obtain rfl : t = u := by simpa [extend?] using hu
    exact ⟨h, by simp⟩
  | cons name place ih =>
    rw [extend?] at hu
    split at hu
    · rename_i entries ht
      obtain ⟨n, hn, hu⟩ := Option.bind_eq_some_iff.1 hu
      obtain ⟨hl, hp⟩ := ih (h.down ht hn) hu
      exact ⟨hl, by simp [hp, place_down]⟩
    · simp at hu

theorem walk_eq_follow {root : Node} {last : Last} {links : Nat} {t : Trail} {path : List Bytes}
    (h : t.Leads root) : walk root last links t path = follow root last links t.place path := by
  fun_induction walk root last links t path with
  | case1 => rw [follow]
  | case2 links t rest entries ht ih =>
    rw [ih h, follow]
    simp [h.get?_place, ht]
  | case3 links t rest entries ht _ ih =>
    rw [ih h.up, follow]
    simp [h.get?_place, ht, place_up]
  | case4 links t step rest entries ht h₁ h₂ h₃ =>
    rw [follow]
    simp [h.get?_place, ht, h₁, h₂, h₃]
  | case5 links t step rest entries ht h₁ h₂ h₃ hn h₄ =>
    rw [follow]
    simp [h.get?_place, ht, h₁, h₂, h₃, hn, h₄]
  | case6 links t step rest entries ht h₁ h₂ h₃ hn h₄ =>
    rw [follow]
    simp only [h.get?_place, ht, h₁, h₂, h₃, hn, h₄, if_false]
  | case7 links t step rest entries ht h₁ h₂ h₃ target hn h₄ =>
    rw [follow]
    simp [h.get?_place, ht, h₁, h₂, h₃, hn, h₄]
  | case8 t step rest entries ht h₁ h₂ h₃ target hn h₄ =>
    rw [follow]
    simp only [h.get?_place, ht, h₁, h₂, h₃, hn, h₄, if_false]
  | case9 t step rest entries ht h₁ h₂ h₃ target hn h₄ links ih =>
    have hl : Leads root (if Path.isAbsolute target then ⟨root, []⟩ else t) := by
      split
      · exact leads_root root
      · exact h
    have hp : (if Path.isAbsolute target then ⟨root, []⟩ else t : Trail).place =
        if Path.isAbsolute target then [] else t.place := by
      split <;> rfl
    simp only [dite_eq_ite] at ih
    rw [ih hl, hp, follow]
    simp only [h.get?_place, ht, h₁, h₂, h₃, hn, h₄, if_false]
  | case10 links t step rest entries ht h₁ h₂ h₃ n hlink hn ih =>
    rw [ih (h.down ht hn), follow]
    simp only [h.get?_place, ht, h₁, h₂, h₃, hn, if_false, place_down]
  | case11 links t step rest hdir =>
    rw [follow, h.get?_place]
    cases hn : t.node with
    | dir entries => exact absurd hn (hdir entries)
    | file | link => rfl

end Trail

end StyleGuide.Disk
