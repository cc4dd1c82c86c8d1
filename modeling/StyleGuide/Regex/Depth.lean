import StyleGuide.Regex.Expr

/-!
How deep a pattern is nested. Patterns that are nested deeper than a limit are refused.
-/

namespace StyleGuide.Regex

def nestLimit : Nat := 250

mutual

/-- The first part of a class that lies too deep, when so many parts are around the class. -/
def ClassExpr.tooDeep (depth : Nat) : ClassExpr → Option Span
  | .bracketed span _ inner =>
    if depth < nestLimit then inner.tooDeep (depth + 1) else some span
  | .union span items => if depth < nestLimit then tooDeepAmong (depth + 1) items else some span
  | .operation span _ left right =>
    if depth < nestLimit then (left.tooDeep (depth + 1)).or (right.tooDeep (depth + 1))
    else some span
  | _ => none

def ClassExpr.tooDeepAmong (depth : Nat) : List ClassExpr → Option Span
  | [] => none
  | e :: rest => (e.tooDeep depth).or (tooDeepAmong depth rest)

end

namespace Expr

mutual

/-- The first part that lies too deep, when so many parts are around the expression. -/
def tooDeep (depth : Nat) : Expr → Option Span
  | .bracketed span _ inner =>
    if depth < nestLimit then inner.tooDeep (depth + 1) else some span
  | .repetition span _ _ _ inner =>
    if depth < nestLimit then inner.tooDeep (depth + 1) else some span
  | .group span _ _ inner => if depth < nestLimit then inner.tooDeep (depth + 1) else some span
  | .alternation span branches =>
    if depth < nestLimit then tooDeepAmong (depth + 1) branches else some span
  | .concat span parts =>
    if depth < nestLimit then tooDeepAmong (depth + 1) parts else some span
  | _ => none

def tooDeepAmong (depth : Nat) : List Expr → Option Span
  | [] => none
  | e :: rest => (e.tooDeep depth).or (tooDeepAmong depth rest)

end

end Expr

end StyleGuide.Regex
