import StyleGuide.Regex.Basic

/-!
Building expressions in a normal form. Rows and choices are flat, texts are as long as they can be,
a choice between characters is a set, and what all branches of a choice begin with stands in front
of it. Main statement: a row matches what its parts match one behind the other (`move_inRow`).
-/

namespace StyleGuide.Regex

/-- What matches nothing, not even the empty text. -/
def fail : Regex := .one .empty

/-- One character of a set. If there is only one to choose, it is a text. -/
def ofSet (s : CharSet) : Regex :=
  let s := s.clipped
  match s.ranges with
  | [(a, b)] => if a = b then .literal [Char.ofNat a] else .one s
  | _ => .one s

/-- Whether an expression matches nothing but the empty text. -/
def isAlwaysEmpty : Regex → Bool
  | .empty | .look _ => true
  | .literal t => t.isEmpty
  | .one _ => false
  | .seq a b | .alt a b => isAlwaysEmpty a && isAlwaysEmpty b
  | .times _ _ _ a | .capture _ a => isAlwaysEmpty a

/-- A repeated expression. One that is always empty need not be repeated. -/
def repeated (least : Nat) (most : Option Nat) (greedy : Bool) (r : Regex) : Regex :=
  let (least, most) :=
    if isAlwaysEmpty r then (min least 1, some (min (most.getD 1) 1)) else (least, most)
  if most = some 0 then .empty
  else if least = 1 ∧ most = some 1 then r
  else .times least most greedy r

/-! Rows -/

/-- Adds the parts of a row to others before it, the last one first. -/
def addParts (found : List Regex) : Regex → List Regex
  | .empty => found
  | .seq a b => addParts (a :: found) b
  | r => r :: found

/-- Puts a part in front of others. Two texts in a row are one. -/
def putFirst (rest : List Regex) (r : Regex) : List Regex :=
  match r, rest with
  | .literal s, .literal t :: rest => .literal (s ++ t) :: rest
  | r, rest => r :: rest

/-- Expressions one behind the other. The row is built from its end. -/
def inRow (rs : List Regex) : Regex :=
  match ((rs.foldl addParts []).foldl putFirst []).reverse with
  | [] => .empty
  | last :: before => before.foldl (fun rest r => .seq r rest) last

/-- Moves marks over expressions one behind the other. -/
def moveAll (places : List Place) (rs : List Regex) (marks : List Bool) : List Bool :=
  rs.foldl (fun marks r => r.move places marks) marks

theorem moveAll_append (places : List Place) (rs ss : List Regex) (marks : List Bool) :
    moveAll places (rs ++ ss) marks = moveAll places ss (moveAll places rs marks) :=
  List.foldl_append

theorem moveAll_addParts (places : List Place) (r : Regex) (found : List Regex)
    (marks : List Bool) :
    moveAll places (addParts found r).reverse marks =
      r.move places (moveAll places found.reverse marks) := by
  induction r generalizing found with
  | empty => rfl
  | seq a b _ ihb =>
    rw [addParts, ihb, List.reverse_cons, moveAll_append]
    rfl
  | _ =>
    rw [addParts, List.reverse_cons, moveAll_append]
    · rfl
    all_goals simp

theorem moveAll_foldl_addParts (places : List Place) (rs found : List Regex)
    (marks : List Bool) :
    moveAll places (rs.foldl addParts found).reverse marks =
      moveAll places rs (moveAll places found.reverse marks) := by
  induction rs generalizing found with
  | nil => rfl
  | cons r rs ih =>
    rw [List.foldl_cons, ih, moveAll_addParts]
    rfl

theorem moveAll_putFirst (places : List Place) (r : Regex) (rest : List Regex)
    (marks : List Bool) :
    moveAll places (putFirst rest r) marks = moveAll places rest (r.move places marks) := by
  unfold putFirst
  split
  · simp [moveAll, move, List.foldl_append]
  · rfl

theorem moveAll_foldl_putFirst (places : List Place) (rs rest : List Regex)
    (marks : List Bool) :
    moveAll places (rs.foldl putFirst rest) marks =
      moveAll places rest (moveAll places rs.reverse marks) := by
  induction rs generalizing rest with
  | nil => rfl
  | cons r rs ih =>
    rw [List.foldl_cons, ih, moveAll_putFirst, List.reverse_cons, moveAll_append]
    rfl

theorem move_foldl_seq (places : List Place) (before : List Regex) (last : Regex)
    (marks : List Bool) :
    (before.foldl (fun rest r => .seq r rest) last).move places marks =
      last.move places (moveAll places before.reverse marks) := by
  induction before generalizing last with
  | nil => rfl
  | cons r before ih =>
    rw [List.foldl_cons, ih, List.reverse_cons, moveAll_append]
    rfl

/-- A row moves marks as its parts do one behind the other. -/
theorem move_inRow (places : List Place) (rs : List Regex) (marks : List Bool) :
    (inRow rs).move places marks = moveAll places rs marks := by
  have h : moveAll places ((rs.foldl addParts []).foldl putFirst []) marks =
      moveAll places rs marks := by
    rw [moveAll_foldl_putFirst, moveAll_foldl_addParts]
    rfl
  rw [← h, inRow]
  split
  · next e => rw [List.reverse_eq_nil_iff.1 e]; rfl
  · next last before e =>
    rw [move_foldl_seq, List.reverse_eq_cons_iff.1 e, moveAll_append]
    rfl

/-! Choices -/

/-- Adds the branches of a choice to others before it, the last one first. -/
def addBranches (found : List Regex) : Regex → List Regex
  | .alt a b => addBranches (a :: found) b
  | r => r :: found

def charOf? : Regex → Option (Nat × Nat)
  | .literal [c] => some (c.toNat, c.toNat)
  | _ => none

def setOf? : Regex → Option CharSet
  | .one s => some s
  | _ => none

/-- A choice between branches that are no choices themselves. -/
def ofBranches (branches : List Regex) : Regex :=
  match branches.mapM charOf?, branches.mapM setOf?, branches.reverse with
  | _, _, [] => fail
  | _, _, [r] => r
  | some chars, _, _ => ofSet (.ofRanges chars)
  | _, some sets, _ => ofSet (.unions sets)
  | _, _, last :: before => before.foldl (fun rest r => .alt r rest) last

/-- The parts of a row of several; other expressions are no rows. -/
def rowParts : Regex → List Regex
  | .seq a b => (addParts [a] b).reverse
  | _ => []

/-- The first parts that two rows share. -/
def sharedParts : List Regex → List Regex → List Regex
  | r :: rs, s :: ss => if r = s then r :: sharedParts rs ss else []
  | _, _ => []

/-- The parts with which all branches begin. -/
def sharedFront : List Regex → List Regex
  | first :: second :: others =>
    (second :: others).foldl (fun front r => sharedParts front (rowParts r)) (rowParts first)
  | _ => []

/-- One of some expressions. What is left of the branches behind their common front begins in
different ways, so it is not searched for another one. -/
def either (rs : List Regex) : Regex :=
  let branches := (rs.foldl addBranches []).reverse
  match ofBranches branches, sharedFront branches with
  | r, [] => r
  | _, front =>
    let rests := branches.map fun r => inRow ((rowParts r).drop front.length)
    inRow (front ++ [ofBranches (rests.foldl addBranches []).reverse])

end StyleGuide.Regex
