import StyleGuide.Text.Decimal

/-!
File name patterns: `?` is any character, `*` any text, `[...]` one of a set, `[!...]` one outside
it, and `**` as a whole path component any number of components.
-/

namespace StyleGuide

namespace Pattern

/-- A member of a character set: the characters from `first` to `last`. -/
structure Span where
  first : Char
  last : Char
  deriving DecidableEq, Repr

inductive Token where
  | char (c : Char)
  | anyChar
  | anyText
  | anyComponents
  | within (spans : List Span)
  | except (spans : List Span)
  deriving DecidableEq, Repr

inductive Fault where
  /-- Three or more asterisks in a row. -/
  | wildcards
  /-- Two asterisks that are no component by themselves. -/
  | recursive
  /-- A set that is not closed. -/
  | range
  deriving DecidableEq, Repr

/-- What is wrong with a pattern, and at which of its characters. -/
structure Error where
  position : Nat
  fault : Fault
  deriving DecidableEq, Repr

def Fault.message : Fault → String
  | wildcards => "wildcards are either regular `*` or recursive `**`"
  | recursive => "recursive wildcards must form a single path component"
  | range => "invalid range pattern"

def Error.message (e : Error) : Text :=
  "Pattern syntax error near position ".toList ++ Text.ofNat e.position ++ ": ".toList ++
    e.fault.message.toList

/-- The spans of a set: two characters with a hyphen between them are a span, any other character
stands for itself. -/
def spans : Text → List Span
  | a :: '-' :: b :: rest => ⟨a, b⟩ :: spans rest
  | c :: rest => ⟨c, c⟩ :: spans rest
  | [] => []

/-- The text of a set up to its closing bracket, and what follows. The first character of a set is
never its closing bracket. -/
def cutSet? : Text → Option (Text × Text)
  | [] => none
  | c :: rest => (Text.cut? [']'] rest).map fun (inside, after) => (c :: inside, after)

/-- Reads a set behind its opening bracket. -/
def set? (t : Text) : Option (Token × Text) :=
  match t with
  | '!' :: rest => (cutSet? rest).map fun (inside, after) => (.except (spans inside), after)
  | t => (cutSet? t).map fun (inside, after) => (.within (spans inside), after)

theorem length_of_cutSet? {t inside after : Text} (h : cutSet? t = some (inside, after)) :
    after.length < t.length := by
  cases t with
  | nil => simp [cutSet?] at h
  | cons c rest =>
    simp only [cutSet?, Option.map_eq_some_iff, Prod.mk.injEq, Prod.exists] at h
    obtain ⟨_, _, hcut, _, rfl⟩ := h
    have := Text.length_of_cut? hcut
    simp only [List.length_cons]
    omega

theorem length_of_set? {t after : Text} {token : Token} (h : set? t = some (token, after)) :
    after.length < t.length := by
  unfold set? at h
  split at h
  · simp only [Option.map_eq_some_iff, Prod.mk.injEq, Prod.exists] at h
    obtain ⟨_, _, hcut, _, rfl⟩ := h
    exact Nat.lt_succ_of_lt (length_of_cutSet? hcut)
  · simp only [Option.map_eq_some_iff, Prod.mk.injEq, Prod.exists] at h
    obtain ⟨_, _, hcut, _, rfl⟩ := h
    exact length_of_cutSet? hcut

/-- Reads the rest `t` of a pattern from its `position` on. `component` tells whether a path
component starts there. -/
def readTokens (position : Nat) (component : Bool) (t : Text) : Except Error (List Token) :=
  match t with
  | [] => .ok []
  | '?' :: rest => (readTokens (position + 1) false rest).map (.anyChar :: ·)
  | '*' :: '*' :: '*' :: _ => .error ⟨position + 2, .wildcards⟩
  | '*' :: '*' :: rest =>
    if component then
      match rest with
      | [] => .ok [.anyComponents]
      | '/' :: more => (readTokens (position + 3) true more).map (.anyComponents :: ·)
      | _ => .error ⟨position + 2, .recursive⟩
    else .error ⟨position - 1, .recursive⟩
  | '*' :: rest => (readTokens (position + 1) false rest).map (.anyText :: ·)
  | '[' :: rest =>
    match _h : set? rest with
    | some (token, after) =>
      (readTokens (position + 1 + (rest.length - after.length)) false after).map (token :: ·)
    | none => .error ⟨position, .range⟩
  | c :: rest => (readTokens (position + 1) (c = '/') rest).map (.char c :: ·)
termination_by t.length
decreasing_by
  all_goals simp only [List.length_cons]
  all_goals try omega
  have := length_of_set? _h
  omega

def Span.contains (s : Span) (c : Char) : Bool := s.first ≤ c && c ≤ s.last

/-- A text and what follows after any part of it, down to nothing. -/
def tails : Text → List Text
  | [] => [[]]
  | c :: rest => (c :: rest) :: tails rest

/-- The verdict on the longest of some tails. -/
def first (verdicts : List Bool) : Bool := verdicts.head?.getD false

/-- The pass of a token that stands for one character. -/
def passOne (test : Char → Bool) : Text → List Bool → List Bool
  | [], _ => [false]
  | c :: t, verdicts => (test c && first verdicts.tail) :: passOne test t verdicts.tail

/-- For each tail, whether one of its own tails is accepted. -/
def passAny : List Bool → List Bool
  | [] => []
  | v :: verdicts =>
    let rest := passAny verdicts
    (v || first rest) :: rest

/-- For each tail, whether what stands behind one of its slashes is accepted. -/
def passSlash : Text → List Bool → List Bool
  | [], _ => [false]
  | c :: t, verdicts =>
    let rest := passSlash t verdicts.tail
    (c = '/' && first verdicts.tail || first rest) :: rest

def passComponents (t : Text) (verdicts : List Bool) : List Bool :=
  (verdicts.zipWith or (passSlash t verdicts)).map (· || verdicts.getLast?.getD false)

def Token.pass (t : Text) (verdicts : List Bool) : Token → List Bool
  | .char d => passOne (· = d) t verdicts
  | .anyChar => passOne (fun _ => true) t verdicts
  | .within spans => passOne (fun c => spans.any (·.contains c)) t verdicts
  | .except spans => passOne (fun c => !spans.any (·.contains c)) t verdicts
  | .anyText => passAny verdicts
  | .anyComponents => passComponents t verdicts

/-- The verdicts on all tails of a text, the longest first. -/
def verdicts (t : Text) : List Token → List Bool
  | [] => (tails t).map List.isEmpty
  | token :: tokens => token.pass t (verdicts t tokens)

end Pattern

/-- A pattern that has been read. -/
structure Pattern where
  tokens : List Pattern.Token
  deriving DecidableEq, Repr

namespace Pattern

def parse (t : Text) : Except Error Pattern := (readTokens 0 true t).map Pattern.mk

def matchesText (p : Pattern) (t : Text) : Bool := first (verdicts t p.tokens)

end Pattern

end StyleGuide
