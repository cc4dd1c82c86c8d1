import StyleGuide.Text.Blank

/-!
Text as a list of characters, with the operations on lines, pieces and surrounding blanks that the
rest of the library is built from. Texts are ordered by code point. What only compares characters
is there for lists of bytes as well.
-/

namespace StyleGuide

abbrev Text := List Char

namespace Text

def trimStart (t : Text) : Text := t.dropWhile isBlank

def trimEnd (t : Text) : Text := (t.reverse.dropWhile isBlank).reverse

def trim (t : Text) : Text := trimEnd (trimStart t)

section Pieces

variable {α : Type} [DecidableEq α]

/-- What follows `start` in a text that begins with it. -/
def after? : (start : List α) → List α → Option (List α)
  | [], t => some t
  | _ :: _, [] => none
  | s :: start, c :: t => if s = c then after? start t else none

/-- What precedes `stop` in a text that ends with it. -/
def before? (stop t : List α) : Option (List α) :=
  (after? stop.reverse t.reverse).map List.reverse

def startsWith (start t : List α) : Bool := (after? start t).isSome

def endsWith (stop t : List α) : Bool := (before? stop t).isSome

/-- The text without a leading `start`, or as it is. -/
def dropStart (start t : List α) : List α := (after? start t).getD t

/-- The text without a trailing `stop`, or as it is. -/
def dropStop (stop t : List α) : List α := (before? stop t).getD t

/-- Cuts a text around the first occurrence of `mark`. -/
def cut? (mark : List α) : List α → Option (List α × List α)
  | [] => (after? mark []).map fun rest => ([], rest)
  | c :: t =>
    match after? mark (c :: t) with
    | some rest => some ([], rest)
    | none => (cut? mark t).map fun (front, rest) => (c :: front, rest)

/-- The pieces between separators: one more than there are separators. -/
def pieces (sep : α) : List α → List (List α)
  | [] => [[]]
  | c :: t =>
    if c = sep then [] :: pieces sep t
    else match pieces sep t with
      | [] => [[c]]
      | p :: ps => (c :: p) :: ps

/-- The texts in order, with `sep` between neighbours. -/
def join (sep : List α) (ts : List (List α)) : List α := List.intercalate sep ts

end Pieces

/-- The lines of a text. A line ends at a newline, and a carriage return right before that newline
belongs to the line end. What follows the last newline is a line only if there is something. -/
def lines (t : Text) : List Text :=
  let parts := pieces '\n' t
  let ended := parts.dropLast.map (dropStop ['\r'])
  match parts.getLast? with
  | none | some [] => ended
  | some rest => ended ++ [rest]

def joinLines (ts : List Text) : Text := join ['\n'] ts

/-- The number of bytes that a text takes in UTF-8. -/
def byteSize : Text → Nat
  | [] => 0
  | c :: t => c.utf8Size + byteSize t

/-- The text that the bytes spell in UTF-8, if they spell one. -/
def ofBytes? (bytes : ByteArray) : Option Text := (String.fromUTF8? bytes).map String.toList

def toBytes (t : Text) : ByteArray := (String.ofList t).toUTF8

variable {α : Type} [DecidableEq α]

theorem length_of_after? {start t rest : List α} (h : after? start t = some rest) :
    t.length = start.length + rest.length := by
  induction start generalizing t with
  | nil => simp_all [after?]
  | cons s start ih =>
    cases t with
    | nil => simp [after?] at h
    | cons c t =>
      by_cases hc : s = c
      · rw [after?, if_pos hc] at h
        simp only [List.length_cons]
        have := ih h
        omega
      · simp [after?, hc] at h

theorem length_of_cut? {mark t front rest : List α} (h : cut? mark t = some (front, rest)) :
    t.length = front.length + mark.length + rest.length := by
  induction t generalizing front with
  | nil =>
    simp only [cut?, Option.map_eq_some_iff, Prod.mk.injEq] at h
    obtain ⟨r, hr, rfl, rfl⟩ := h
    simpa using length_of_after? hr
  | cons c t ih =>
    rw [cut?] at h
    split at h
    · next r hr =>
      simp only [Option.some.injEq, Prod.mk.injEq] at h
      obtain ⟨rfl, rfl⟩ := h
      simpa using length_of_after? hr
    · simp only [Option.map_eq_some_iff, Prod.mk.injEq, Prod.exists] at h
      obtain ⟨f, r, hr, rfl, rfl⟩ := h
      have := ih hr
      simp only [List.length_cons]
      omega

end Text

end StyleGuide
