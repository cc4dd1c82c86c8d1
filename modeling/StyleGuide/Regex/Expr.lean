import StyleGuide.CharSet.Property
import StyleGuide.Regex.Error

/-!
Regular expressions as they are written. Each part knows where it stands in the pattern.
-/

namespace StyleGuide.Regex

structure Literal where
  span : Span
  char : Char
  /-- Whether it is written as a byte of two hexadecimal digits. -/
  isByte : Bool := false
  deriving DecidableEq, Repr

/-- The classes that have a letter of their own. -/
inductive Letter where
  | digit
  | space
  | word
  deriving DecidableEq, Repr

structure LetterClass where
  span : Span
  letter : Letter
  negated : Bool
  deriving DecidableEq, Repr

structure PropertyClass where
  span : Span
  query : CharSet.Query
  negated : Bool
  deriving DecidableEq, Repr

inductive SetOperation where
  | inter
  | diff
  | symmDiff
  deriving DecidableEq, Repr

/-- What stands in a bracketed class. -/
inductive ClassExpr where
  | empty (span : Span)
  | literal (l : Literal)
  | range (span : Span) (first last : Literal)
  | ascii (span : Span) (set : CharSet) (negated : Bool)
  | property (c : PropertyClass)
  | letter (c : LetterClass)
  | bracketed (span : Span) (negated : Bool) (inner : ClassExpr)
  | union (span : Span) (items : List ClassExpr)
  | operation (span : Span) (op : SetOperation) (left right : ClassExpr)

def ClassExpr.span : ClassExpr → Span
  | empty s => s
  | literal l => l.span
  | range s _ _ => s
  | ascii s _ _ => s
  | property c => c.span
  | letter c => c.span
  | bracketed s _ _ => s
  | union s _ => s
  | operation s _ _ _ => s

inductive Flag where
  | ignoreCase
  | multiLine
  | dotAll
  | swapGreed
  | unicode
  | crlf
  | loose
  deriving DecidableEq, Repr

inductive FlagItem where
  | negation
  | flag (f : Flag)
  deriving DecidableEq, Repr

/-- What some items say of a flag, if they name it. Flags behind the negation are turned off. -/
def flagState? (f : Flag) (items : List FlagItem) : Option Bool :=
  go true items
where
  go (on : Bool) : List FlagItem → Option Bool
    | [] => none
    | .negation :: rest => go false rest
    | .flag g :: rest => if g = f then some on else go on rest

/-- Conditions on a place in a text. -/
inductive Assertion where
  | startLine
  | stopLine
  | startText
  | stopText
  | wordBoundary
  | notWordBoundary
  | wordStart
  | wordStop
  | wordStartHalf
  | wordStopHalf
  deriving DecidableEq, Repr

inductive Expr where
  | empty (span : Span)
  | flags (span : Span) (items : List FlagItem)
  | literal (l : Literal)
  | dot (span : Span)
  | assertion (span : Span) (a : Assertion)
  | property (c : PropertyClass)
  | letter (c : LetterClass)
  | bracketed (span : Span) (negated : Bool) (inner : ClassExpr)
  /-- A lazy repetition has a question mark behind its sign. -/
  | repetition (span : Span) (least : Nat) (most : Option Nat) (isLazy : Bool) (inner : Expr)
  /-- A group with flags of its own, or one with a number and perhaps a name. -/
  | group (span : Span) (captures : Bool) (items : List FlagItem) (inner : Expr)
  | alternation (span : Span) (branches : List Expr)
  | concat (span : Span) (parts : List Expr)

namespace Expr

def span : Expr → Span
  | empty s => s
  | flags s _ => s
  | literal l => l.span
  | dot s => s
  | assertion s _ => s
  | property c => c.span
  | letter c => c.span
  | bracketed s _ _ => s
  | repetition s _ _ _ _ => s
  | group s _ _ _ => s
  | alternation s _ => s
  | concat s _ => s

/-- Parts in a row; a single one stands for itself. -/
def ofParts (span : Span) : List Expr → Expr
  | [] => empty span
  | [e] => e
  | parts => concat span parts

/-- Whether there is something to repeat. -/
def isRepeatable : Expr → Bool
  | empty _ | flags _ _ => false
  | _ => true

end Expr

end StyleGuide.Regex
