import StyleGuide.Text.Order

/-!
Dictionaries keyed by text. The entries are kept in strictly ascending order of their keys, so a
dictionary is determined by what it holds.
-/

namespace StyleGuide

structure Dict (α : Type) where
  entries : List (Text × α)
  ascending : entries.Pairwise fun a b => Text.precedes a.1 b.1
  deriving DecidableEq

namespace Dict

variable {α β : Type}

/-- Puts an entry at its place, in the stead of the one with the same key. -/
def place (key : Text) (value : α) : List (Text × α) → List (Text × α)
  | [] => [(key, value)]
  | e :: es =>
    if Text.precedes key e.1 then (key, value) :: e :: es
    else if key = e.1 then (key, value) :: es
    else e :: place key value es

theorem eq_or_mem_of_mem_place {key : Text} {value : α} {es : List (Text × α)} {e : Text × α}
    (h : e ∈ place key value es) : e = (key, value) ∨ e ∈ es := by
  induction es with
  | nil => simpa [place] using h
  | cons f es ih =>
    rw [place] at h
    split at h
    · simpa using h
    · split at h
      · rcases List.mem_cons.1 h with h | h
        · exact .inl h
        · exact .inr (List.mem_cons_of_mem _ h)
      · rcases List.mem_cons.1 h with h | h
        · exact .inr (h ▸ List.mem_cons_self)
        · exact (ih h).imp id (List.mem_cons_of_mem _)

theorem pairwise_place {key : Text} {value : α} {es : List (Text × α)}
    (h : es.Pairwise fun a b => Text.precedes a.1 b.1) :
    (place key value es).Pairwise fun a b => Text.precedes a.1 b.1 := by
  induction es with
  | nil => simp [place]
  | cons e es ih =>
    obtain ⟨he, hes⟩ := List.pairwise_cons.1 h
    rw [place]
    split
    · next hlt =>
      refine List.pairwise_cons.2 ⟨fun f hf => ?_, h⟩
      rcases List.mem_cons.1 hf with rfl | hf
      · exact hlt
      · exact Text.precedes_trans hlt (he f hf)
    · next hge =>
      split
      · next heq => exact List.pairwise_cons.2 ⟨fun f hf => heq ▸ he f hf, hes⟩
      · next hne =>
        refine List.pairwise_cons.2 ⟨fun f hf => ?_, ih hes⟩
        rcases eq_or_mem_of_mem_place hf with rfl | hf
        · refine (Bool.eq_false_or_eq_true _).resolve_right fun hle => hne ?_
          exact Text.eq_of_not_precedes (Bool.eq_false_iff.2 hge) hle
        · exact he f hf

def empty : Dict α := ⟨[], .nil⟩

instance : EmptyCollection (Dict α) := ⟨empty⟩

instance : Inhabited (Dict α) := ⟨∅⟩

def insert (key : Text) (value : α) (d : Dict α) : Dict α :=
  ⟨place key value d.entries, pairwise_place d.ascending⟩

/-- The dictionary of the given entries, a later one in the stead of an earlier one. -/
def ofList (es : List (Text × α)) : Dict α := es.foldl (fun d e => d.insert e.1 e.2) ∅

def get? (d : Dict α) (key : Text) : Option α := d.entries.lookup key

def contains (d : Dict α) (key : Text) : Bool := (d.get? key).isSome

def isEmpty (d : Dict α) : Bool := d.entries.isEmpty

def keys (d : Dict α) : List Text := d.entries.map Prod.fst

def map (f : α → β) (d : Dict α) : Dict β :=
  ⟨d.entries.map fun e => (e.1, f e.2), List.pairwise_map.2 d.ascending⟩

end Dict

end StyleGuide
