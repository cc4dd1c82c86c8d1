import StyleGuide.Failure
import StyleGuide.Text.Decimal
import StyleGuide.Warning

/-!
What a run has to say besides its result: warnings, and notes on its progress.
-/

namespace StyleGuide

inductive Note where
  | loadedConfig (path : Path)
  | foundFiles (count : Nat) (root : Path)
  | skippedBlock (path : Path) (offset : Nat)
  | readFile (path : Path) (records : Nat)
  | readAll (records : Nat)
  /-- Records that belong to no category. -/
  | leftOut (records : Nat)
  deriving DecidableEq, Repr

def Note.message : Note → Text
  | loadedConfig path => "loaded config from ".toList ++ Bytes.shown path
  | foundFiles count root =>
    "found ".toList ++ Text.ofNat count ++ " style file(s) under ".toList ++ Bytes.shown root
  | skippedBlock path offset =>
    Bytes.shown path ++ ": skipping non-strict block at byte ".toList ++ Text.ofNat offset
  | readFile path records =>
    Bytes.shown path ++ ": ".toList ++ Text.ofNat records ++ " record(s)".toList
  | readAll records => "parsed ".toList ++ Text.ofNat records ++ " record(s)".toList
  | leftOut records => Text.ofNat records ++ " record(s) without @category left out".toList

inductive Event where
  | warning (w : Warning)
  | note (n : Note)
  deriving DecidableEq, Repr

def Event.warning? : Event → Option Warning
  | warning w => some w
  | note _ => none

/-- The warnings among the events, in order. -/
def warnings (events : List Event) : List Warning := events.filterMap Event.warning?

/-- A result, or the failure in its stead, with the events on the way to it. -/
structure Outcome (α : Type) where
  events : List Event
  result : Except Failure α

namespace Outcome

variable {α β : Type}

def tell (events : List Event) : Outcome Unit := ⟨events, .ok ()⟩

def fail (failure : Failure) : Outcome α := ⟨[], .error failure⟩

/-- Goes on with the result; a failure ends there and keeps its events. -/
def andThen (o : Outcome α) (f : α → Outcome β) : Outcome β :=
  match o.result with
  | .ok a => ⟨o.events ++ (f a).events, (f a).result⟩
  | .error failure => ⟨o.events, .error failure⟩

instance : Monad Outcome where
  pure a := ⟨[], .ok a⟩
  bind := andThen

/-- Goes through a list and stops at the first failure. -/
def each (f : α → Outcome β) : List α → Outcome (List β)
  | [] => ⟨[], .ok []⟩
  | a :: as => (f a).andThen fun b => (each f as).andThen fun bs => ⟨[], .ok (b :: bs)⟩

/-- Joins outcomes that do not depend on each other. All of them have their events; the first
failure is the failure of the whole. -/
def all : List (Outcome α) → Outcome (List α)
  | [] => ⟨[], .ok []⟩
  | o :: os =>
    ⟨o.events ++ (all os).events,
      match o.result, (all os).result with
      | .ok a, .ok as => .ok (a :: as)
      | .error failure, _ => .error failure
      | .ok _, .error failure => .error failure⟩

end Outcome

end StyleGuide
