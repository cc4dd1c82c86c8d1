import Mathlib.Data.List.Forall2
import StyleGuide.Report

namespace StyleGuide

theorem warnings_append (xs ys : List Event) : warnings (xs ++ ys) = warnings xs ++ warnings ys :=
  List.filterMap_append

namespace Outcome

variable {α β γ : Type}

theorem andThen_ok {o : Outcome α} {a : α} (h : o.result = .ok a) (f : α → Outcome β) :
    o.andThen f = ⟨o.events ++ (f a).events, (f a).result⟩ := by
  rw [andThen, h]

theorem andThen_error {o : Outcome α} {e : Failure} (h : o.result = .error e)
    (f : α → Outcome β) : o.andThen f = ⟨o.events, .error e⟩ := by
  rw [andThen, h]

theorem andThen_pure (o : Outcome α) : o.andThen pure = o := by
  obtain ⟨events, result⟩ := o
  cases result with
  | ok a =>
    change (⟨events ++ [], .ok a⟩ : Outcome α) = ⟨events, .ok a⟩
    rw [List.append_nil]
  | error e => rfl

theorem andThen_assoc (o : Outcome α) (f : α → Outcome β) (g : β → Outcome γ) :
    (o.andThen f).andThen g = o.andThen fun a => (f a).andThen g := by
  cases ho : o.result with
  | error e => rw [andThen_error ho, andThen_error ho, andThen_error rfl]
  | ok a =>
    rw [andThen_ok ho, andThen_ok ho]
    cases hf : (f a).result with
    | error e => rw [andThen_error hf, andThen_error rfl]
    | ok b => rw [andThen_ok hf, andThen_ok rfl, List.append_assoc]

theorem pure_andThen (a : α) (f : α → Outcome β) : (pure a : Outcome α).andThen f = f a := rfl

theorem each_append (f : α → Outcome β) (xs ys : List α) :
    each f (xs ++ ys) =
      (each f xs).andThen fun bs => (each f ys).andThen fun cs => pure (bs ++ cs) := by
  induction xs with
  | nil => exact (andThen_pure (each f ys)).symm
  | cons x xs ih =>
    rw [List.cons_append, each, each, ih, andThen_assoc]
    congr 1
    funext b
    simp only [andThen_assoc]
    rfl

/-- The same result after the same warnings; notes may differ. -/
structure Alike (o p : Outcome α) : Prop where
  result : o.result = p.result
  warnings : warnings o.events = StyleGuide.warnings p.events

theorem Alike.refl (o : Outcome α) : Alike o o := ⟨rfl, rfl⟩

theorem Alike.andThen {o p : Outcome α} {f g : α → Outcome β} (h : Alike o p)
    (hfg : ∀ a, Alike (f a) (g a)) : Alike (o.andThen f) (p.andThen g) := by
  cases ho : o.result with
  | error e =>
    rw [andThen_error ho, andThen_error (h.result ▸ ho)]
    exact ⟨rfl, h.warnings⟩
  | ok a =>
    rw [andThen_ok ho, andThen_ok (h.result ▸ ho)]
    refine ⟨(hfg a).result, ?_⟩
    rw [warnings_append, warnings_append, h.warnings, (hfg a).warnings]

theorem Alike.forall₂ {f : α → Outcome β} {g : γ → Outcome β} {xs : List α} {ys : List γ}
    (h : List.Forall₂ (fun x y => Alike (f x) (g y)) xs ys) : Alike (each f xs) (each g ys) := by
  induction h with
  | nil => exact .refl _
  | cons hxy _ ih =>
    apply hxy.andThen
    intro b
    apply ih.andThen
    intro bs
    exact .refl _

theorem Alike.each {f g : α → Outcome β} {xs : List α} (h : ∀ x ∈ xs, Alike (f x) (g x)) :
    Alike (each f xs) (each g xs) :=
  .forall₂ (List.forall₂_same.mpr h)

theorem each_congr {f : α → Outcome β} {g : γ → Outcome β} {xs : List α} {ys : List γ}
    (h : List.Forall₂ (fun x y => f x = g y) xs ys) : Outcome.each f xs = Outcome.each g ys := by
  induction h with
  | nil => rfl
  | cons hxy _ ih => rw [Outcome.each, Outcome.each, hxy, ih]

theorem each_map {δ : Type} (f : α → Outcome β) (k : δ → α) (xs : List δ) :
    each f (xs.map k) = each (fun x => f (k x)) xs := by
  induction xs with
  | nil => rfl
  | cons x xs ih => rw [List.map_cons, each, each, ih]

theorem andThen_eq_ok_iff {o : Outcome α} {f : α → Outcome β} {b : β} :
    (o.andThen f).result = .ok b ↔ ∃ a, o.result = .ok a ∧ (f a).result = .ok b := by
  cases ho : o.result with
  | error e => simp [andThen_error ho]
  | ok a => simp [andThen_ok ho]

theorem andThen_eq_error_iff {o : Outcome α} {f : α → Outcome β} {e : Failure} :
    (o.andThen f).result = .error e ↔
      o.result = .error e ∨ ∃ a, o.result = .ok a ∧ (f a).result = .error e := by
  cases ho : o.result with
  | error e' => simp [andThen_error ho]
  | ok a => simp [andThen_ok ho]

theorem each_eq_ok_iff {f : α → Outcome β} {xs : List α} {bs : List β} :
    (each f xs).result = .ok bs ↔ List.Forall₂ (fun x b => (f x).result = .ok b) xs bs := by
  induction xs generalizing bs with
  | nil => simp [each, eq_comm]
  | cons x xs ih =>
    rw [each, andThen_eq_ok_iff, List.forall₂_cons_left_iff]
    simp only [andThen_eq_ok_iff, ih, Except.ok.injEq]
    constructor
    · rintro ⟨b, hb, bs, hbs, rfl⟩
      exact ⟨b, bs, hb, hbs, rfl⟩
    · rintro ⟨b, bs, hb, hbs, rfl⟩
      exact ⟨b, hb, bs, hbs, rfl⟩

theorem each_eq_error_iff {f : α → Outcome β} {xs : List α} {e : Failure} :
    (each f xs).result = .error e ↔ ∃ before x after, xs = before ++ x :: after ∧
      (∀ y ∈ before, ∃ b, (f y).result = .ok b) ∧ (f x).result = .error e := by
  induction xs with
  | nil => simp [each]
  | cons x xs ih =>
    rw [each, andThen_eq_error_iff]
    simp only [andThen_eq_error_iff, ih, reduceCtorEq, and_false, exists_false, or_false]
    constructor
    · rintro (hx | ⟨b, hb, before, y, after, rfl, hbefore, hy⟩)
      · exact ⟨[], x, xs, rfl, by simp, hx⟩
      · exact ⟨x :: before, y, after, rfl, List.forall_mem_cons.mpr ⟨⟨b, hb⟩, hbefore⟩, hy⟩
    · rintro ⟨before, y, after, hxs, hbefore, hy⟩
      cases before with
      | nil =>
        obtain ⟨rfl, rfl⟩ := List.cons.inj hxs
        exact Or.inl hy
      | cons z before =>
        obtain ⟨rfl, rfl⟩ := List.cons.inj hxs
        obtain ⟨⟨b, hb⟩, hbefore⟩ := List.forall_mem_cons.mp hbefore
        exact Or.inr ⟨b, hb, before, y, after, rfl, hbefore, hy⟩

theorem exists_each_eq_ok_iff {f : α → Outcome β} {xs : List α} :
    (∃ bs, (each f xs).result = .ok bs) ↔ ∀ x ∈ xs, ∃ b, (f x).result = .ok b := by
  simp only [each_eq_ok_iff]
  induction xs with
  | nil => simp
  | cons x xs ih =>
    rw [List.forall_mem_cons, ← ih]
    simp only [List.forall₂_cons_left_iff]
    constructor
    · rintro ⟨_, b, bs, hb, hbs, rfl⟩
      exact ⟨⟨b, hb⟩, bs, hbs⟩
    · rintro ⟨⟨b, hb⟩, bs, hbs⟩
      exact ⟨b :: bs, b, bs, hb, hbs, rfl⟩

theorem warnings_andThen_eq_nil {o : Outcome α} {f : α → Outcome β}
    (ho : StyleGuide.warnings o.events = []) (hf : ∀ a, StyleGuide.warnings (f a).events = []) :
    StyleGuide.warnings (o.andThen f).events = [] := by
  cases hr : o.result with
  | error e => rwa [andThen_error hr]
  | ok a => rw [andThen_ok hr, warnings_append, ho, hf, List.append_nil]

theorem warnings_each_eq_nil {f : α → Outcome β} (h : ∀ x, StyleGuide.warnings (f x).events = [])
    (xs : List α) : StyleGuide.warnings (each f xs).events = [] := by
  induction xs with
  | nil => rfl
  | cons x xs ih =>
    apply warnings_andThen_eq_nil (h x)
    intro b
    exact warnings_andThen_eq_nil ih fun _ => rfl

end Outcome

end StyleGuide
