import StyleGuide.Regex.Automaton
import StyleGuide.Regex.Depth
import StyleGuide.Regex.Meaning
import StyleGuide.Regex.Reader
import StyleGuide.Regex.Starts

/-!
Regular expressions: from a pattern to what it matches, or to why it is refused.
-/

namespace StyleGuide.Regex

/-- Why a pattern is refused. -/
inductive Refusal where
  | wrong (e : Error)
  | tooLarge
  deriving DecidableEq, Repr

def Refusal.message (pattern : Text) : Refusal → Text
  | wrong e => e.report pattern
  | tooLarge =>
    "Compiled regex exceeds size limit of ".toList ++ Text.ofNat Automaton.Size.limit ++
      " bytes.".toList

/-- Whether an automaton has to be built for an expression, and is too large for one of the two
directions. -/
def isTooLarge (r : Regex) : Bool :=
  ((Automaton.sizeIn .backward r).isOver || (Automaton.sizeIn .forward r).isOver) &&
    !needsNoAutomaton r

/-- Reads a pattern and takes its meaning. Faults in writing are told before others. -/
def parse (pattern : Text) : Except Refusal Regex :=
  match Expr.read pattern with
  | .error e => .error (.wrong e)
  | .ok expr =>
    match expr.tooDeep 0 with
    | some span => .error (.wrong ⟨.nesting nestLimit, span, none⟩)
    | none =>
      match expr.meaning {} with
      | .error e => .error (.wrong e)
      | .ok (r, _) => if isTooLarge r then .error .tooLarge else .ok r

end StyleGuide.Regex
