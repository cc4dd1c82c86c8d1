import Mathlib.Logic.Relation

namespace StyleGuide

/-- A pool of workers on numbered tasks: the tasks that wait, those in a worker's hands, and a slot
for the result of each. -/
structure Pool (α : Type) where
  waiting : List Nat
  underWay : List Nat
  slots : List (Option α)

namespace Pool

variable {α β : Type}

def start (count : Nat) : Pool α := ⟨List.range count, [], List.replicate count none⟩

/-- One move of the pool. Nothing is said of which task is taken or finished next. -/
inductive Move (workers : Nat) (work : β → α) (tasks : List β) : Pool α → Pool α → Prop where
  | take {p : Pool α} {i : Nat} (waits : i ∈ p.waiting) (free : p.underWay.length < workers) :
    Move workers work tasks p
      { p with waiting := p.waiting.erase i, underWay := i :: p.underWay }
  | finish {p : Pool α} {i : Nat} {task : β} (held : i ∈ p.underWay)
      (isTask : tasks[i]? = some task) :
    Move workers work tasks p
      { p with underWay := p.underWay.erase i, slots := p.slots.set i (some (work task)) }

/-- A course of the pool up to some moment. -/
abbrev Reaches (workers : Nat) (work : β → α) (tasks : List β) : Pool α → Pool α → Prop :=
  Relation.ReflTransGen (Move workers work tasks)

/-- A task has its own result in its slot, or is still to be finished and has none. -/
structure Sound (work : β → α) (tasks : List β) (p : Pool α) : Prop where
  length_slots : p.slots.length = tasks.length
  slot : ∀ i task, tasks[i]? = some task → p.slots[i]? = some (some (work task)) ∨
    p.slots[i]? = some none ∧ (i ∈ p.waiting ∨ i ∈ p.underWay)
  lt_of_underWay : ∀ i ∈ p.underWay, i < tasks.length
  lt_of_waiting : ∀ i ∈ p.waiting, i < tasks.length

variable {workers : Nat} {work : β → α} {tasks : List β} {p q : Pool α}

theorem Sound.move (hp : p.Sound work tasks) (h : Move workers work tasks p q) :
    q.Sound work tasks := by
  cases h with
  | @take i waits _ =>
    refine ⟨hp.length_slots, fun j task hj => ?_, ?_, ?_⟩
    · rcases hp.slot j task hj with hslot | ⟨hslot, hwaits | hheld⟩
      · exact Or.inl hslot
      · by_cases hij : j = i
        · exact Or.inr ⟨hslot, Or.inr (hij ▸ List.mem_cons_self)⟩
        · exact Or.inr ⟨hslot, Or.inl ((List.mem_erase_of_ne hij).mpr hwaits)⟩
      · exact Or.inr ⟨hslot, Or.inr (List.mem_cons_of_mem i hheld)⟩
    · exact List.forall_mem_cons.mpr ⟨hp.lt_of_waiting i waits, hp.lt_of_underWay⟩
    · exact fun j hj => hp.lt_of_waiting j (List.mem_of_mem_erase hj)
  | @finish i done held isTask =>
    refine ⟨by rw [List.length_set, hp.length_slots], fun j task hj => ?_, ?_, hp.lt_of_waiting⟩
    · by_cases hij : j = i
      · subst hij
        have hlt : j < p.slots.length := hp.length_slots ▸ hp.lt_of_underWay j held
        obtain rfl : done = task := Option.some.inj (isTask.symm.trans hj)
        exact Or.inl (List.getElem?_set_self hlt)
      · rw [List.getElem?_set_ne (Ne.symm hij)]
        rcases hp.slot j task hj with hslot | ⟨hslot, hwaits | hheld⟩
        · exact Or.inl hslot
        · exact Or.inr ⟨hslot, Or.inl hwaits⟩
        · exact Or.inr ⟨hslot, Or.inr ((List.mem_erase_of_ne hij).mpr hheld)⟩
    · exact fun j hj => hp.lt_of_underWay j (List.mem_of_mem_erase hj)

theorem Sound.reaches (hp : p.Sound work tasks) (h : Reaches workers work tasks p q) :
    q.Sound work tasks := by
  induction h with
  | refl => exact hp
  | tail _ hmove ih => exact ih.move hmove

end Pool

end StyleGuide
