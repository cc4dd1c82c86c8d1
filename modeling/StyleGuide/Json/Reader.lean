import StyleGuide.Json
import StyleGuide.Text.Decimal

/-!
Reading JSON text: first into tokens, then from tokens into a value with a stack of the arrays and
objects that are still open. Nesting is not limited.
-/

namespace StyleGuide.Json

/-- A part of a string literal: a character, or the number of a `\u` escape. -/
inductive Piece where
  | char (c : Char)
  | code (n : Nat)
  deriving DecidableEq, Repr

def hexValue? (c : Char) : Option Nat :=
  if '0' ≤ c ∧ c ≤ '9' then some (c.toNat - 48)
  else if 'a' ≤ c ∧ c ≤ 'f' then some (c.toNat - 87)
  else if 'A' ≤ c ∧ c ≤ 'F' then some (c.toNat - 55)
  else none

def hex4? (a b c d : Char) : Option Nat :=
  match hexValue? a, hexValue? b, hexValue? c, hexValue? d with
  | some a, some b, some c, some d => some (((a * 16 + b) * 16 + c) * 16 + d)
  | _, _, _, _ => none

/-- The character of a one-letter escape. -/
def unescape? (c : Char) : Option Char :=
  match c with
  | '"' => some '"'
  | '\\' => some '\\'
  | '/' => some '/'
  | 'b' => some (Char.ofNat 8)
  | 'f' => some (Char.ofNat 12)
  | 'n' => some '\n'
  | 'r' => some '\r'
  | 't' => some '\t'
  | _ => none

/-- Reads a string literal behind its opening quote, and gives what follows its closing quote. -/
def stringBody? : Text → Option (List Piece × Text)
  | [] => none
  | '"' :: rest => some ([], rest)
  | '\\' :: 'u' :: a :: b :: c :: d :: rest =>
    match hex4? a b c d, stringBody? rest with
    | some n, some (pieces, after) => some (.code n :: pieces, after)
    | _, _ => none
  | '\\' :: e :: rest =>
    match unescape? e, stringBody? rest with
    | some c, some (pieces, after) => some (.char c :: pieces, after)
    | _, _ => none
  | c :: rest =>
    if c < ' ' then none
    else match stringBody? rest with
      | some (pieces, after) => some (.char c :: pieces, after)
      | none => none

/-- The text that the pieces spell. A number in the surrogate range counts only as half of a pair,
the high half first. -/
def spell? : List Piece → Option Text
  | [] => some []
  | .char c :: rest => (spell? rest).map (c :: ·)
  | .code n :: rest =>
    if n < 0xD800 ∨ 0xDFFF < n then (spell? rest).map (Char.ofNat n :: ·)
    else match rest with
      | .code m :: rest =>
        if n < 0xDC00 ∧ 0xDC00 ≤ m ∧ m ≤ 0xDFFF then
          (spell? rest).map (Char.ofNat (0x10000 + (n - 0xD800) * 0x400 + (m - 0xDC00)) :: ·)
        else none
      | _ => none

inductive Token where
  | openArray
  | closeArray
  | openObject
  | closeObject
  | comma
  | colon
  | string (t : Option Text)
  /-- A literal name or a number. -/
  | atom (j : Json)

/-- What may stand between tokens. -/
def isGap (c : Char) : Bool := c = ' ' || c = '\n' || c = '\r' || c = '\t'

/-- The characters that a literal name or a number ends before. -/
def endsAtom (c : Char) : Bool :=
  isGap c || c = '[' || c = ']' || c = '{' || c = '}' || c = ',' || c = ':' || c = '"'

/-- What follows a run of at least one digit. -/
def digits? (t : Text) : Option Text :=
  match t.takeWhile Text.isDigit with
  | [] => none
  | _ => some (t.dropWhile Text.isDigit)

/-- Digits without a leading zero, or zero alone. -/
def whole? : Text → Option Text
  | '0' :: rest => some rest
  | t => digits? t

/-- An optional point with digits behind it. -/
def fraction? : Text → Option Text
  | '.' :: rest => digits? rest
  | t => some t

/-- An optional exponent. -/
def exponent? : Text → Option Text
  | c :: rest =>
    if c = 'e' ∨ c = 'E' then
      match rest with
      | s :: more => if s = '+' ∨ s = '-' then digits? more else digits? rest
      | [] => none
    else some (c :: rest)
  | [] => some []

def isNumber (t : Text) : Bool :=
  (((whole? (Text.dropStart ['-'] t)).bind fraction?).bind exponent?) == some []

def atom? (t : Text) : Option Json :=
  if t = ['n', 'u', 'l', 'l'] then some null
  else if t = ['t', 'r', 'u', 'e'] then some (bool true)
  else if t = ['f', 'a', 'l', 's', 'e'] then some (bool false)
  else if isNumber t then some (number t)
  else none

theorem length_of_stringBody? {t after : Text} {pieces : List Piece}
    (h : stringBody? t = some (pieces, after)) : after.length < t.length := by
  fun_induction stringBody? t generalizing pieces after with
  | case1 | case4 | case6 | case7 | case9 => simp at h
  | case2 rest =>
    simp only [Option.some.injEq, Prod.mk.injEq] at h
    simp [h.2]
  | case3 a b c d rest n found more hmore _ ih | case5 e rest _ c found more hmore _ ih
  | case8 c rest _ _ _ _ found more hmore ih =>
    simp only [Option.some.injEq, Prod.mk.injEq] at h
    have := ih hmore
    simp only [List.length_cons]
    rw [← h.2]
    omega

def punctuation? (c : Char) : Option Token :=
  match c with
  | '[' => some .openArray
  | ']' => some .closeArray
  | '{' => some .openObject
  | '}' => some .closeObject
  | ',' => some .comma
  | ':' => some .colon
  | _ => none

def tokens? : Text → Option (List Token)
  | [] => some []
  | c :: rest =>
    if isGap c then tokens? rest
    else if c = '"' then
      match _h : stringBody? rest with
      | some (pieces, after) => (tokens? after).map (.string (spell? pieces) :: ·)
      | none => none
    else match punctuation? c with
      | some token => (tokens? rest).map (token :: ·)
      | none =>
        match atom? (c :: rest.takeWhile (!endsAtom ·)) with
        | some j => (tokens? (rest.dropWhile (!endsAtom ·))).map (.atom j :: ·)
        | none => none
termination_by t => t.length
decreasing_by
  · simp
  · have := length_of_stringBody? _h
    simp only [List.length_cons]
    omega
  · simp
  · have := (List.dropWhile_sublist (fun c => !endsAtom c) (l := rest)).length_le
    simp only [List.length_cons]
    omega

/-- An array or an object that is still open, with what it holds so far in reverse. -/
inductive Frame where
  | array (items : List Json)
  /-- The value of `key` is being read. -/
  | object (members : List (Option Text × Json)) (key : Option Text)

/-- What the next token has to be. -/
inductive Mode where
  | value
  /-- The first item of an array, or its end. -/
  | firstItem
  /-- The first key of an object, or its end. -/
  | firstKey
  | key (members : List (Option Text × Json))
  | colon (members : List (Option Text × Json)) (key : Option Text)
  /-- A value has just ended. -/
  | ended (j : Json)

/-- Starts a value at a token. -/
def startValue (frames : List Frame) : Token → Option (Mode × List Frame)
  | .atom j => some (.ended j, frames)
  | .string t => some (.ended (.string t), frames)
  | .openArray => some (.firstItem, .array [] :: frames)
  | .openObject => some (.firstKey, frames)
  | _ => none

def step : Mode → List Frame → Token → Option (Mode × List Frame)
  | .value, frames, token => startValue frames token
  | .firstItem, .array _ :: frames, .closeArray => some (.ended (.array []), frames)
  | .firstItem, frames, token => startValue frames token
  | .firstKey, frames, .closeObject => some (.ended (.object []), frames)
  | .firstKey, frames, .string key => some (.colon [] key, frames)
  | .key members, frames, .string key => some (.colon members key, frames)
  | .colon members key, frames, .colon => some (.value, .object members key :: frames)
  | .ended j, .array items :: frames, .comma => some (.value, .array (j :: items) :: frames)
  | .ended j, .array items :: frames, .closeArray =>
    some (.ended (.array (j :: items).reverse), frames)
  | .ended j, .object members key :: frames, .comma => some (.key ((key, j) :: members), frames)
  | .ended j, .object members key :: frames, .closeObject =>
    some (.ended (.object ((key, j) :: members).reverse), frames)
  | _, _, _ => none

/-- The value that the tokens spell, if they spell exactly one. -/
def ofTokens? : Mode → List Frame → List Token → Option Json
  | .ended j, [], [] => some j
  | _, _, [] => none
  | mode, frames, token :: tokens =>
    match step mode frames token with
    | some (mode, frames) => ofTokens? mode frames tokens
    | none => none

def parse? (t : Text) : Option Json := (tokens? t).bind (ofTokens? .value [])

end StyleGuide.Json
