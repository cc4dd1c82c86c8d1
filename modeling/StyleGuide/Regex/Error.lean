import StyleGuide.Regex.Span
import StyleGuide.Text.Decimal

/-!
What can be wrong with a regular expression, and how it is told: the pattern is shown with marks
under the part that is meant.
-/

namespace StyleGuide.Regex

inductive Fault where
  | classEscape
  | classRange
  | classRangeEnd
  | classUnclosed
  | countInvalid
  | countMissing
  | countRange
  | countUnclosed
  | repetitionMissing
  | hexEmpty
  | hexInvalid
  | hexDigit
  | escapeEnd
  | escapeUnknown
  | flagDangling
  | flagTwice
  | flagNegatedTwice
  | flagEnd
  | flagUnknown
  | nameTwice
  | nameEmpty
  | nameInvalid
  | nameEnd
  | groupUnclosed
  | groupUnopened
  | nesting (limit : Nat)
  | wordUnclosed
  | wordUnknown
  | wordEnd
  | propertyInvalid
  | backreference
  | lookAround
  /-- A class of characters where only bytes count. -/
  | notBytes
  /-- Something that could match a part of a character. -/
  | notText
  | propertyUnknown
  | valueUnknown
  deriving DecidableEq, Repr

def Fault.message : Fault → String
  | classEscape => "invalid escape sequence found in character class"
  | classRange => "invalid character class range, the start must be <= the end"
  | classRangeEnd => "invalid range boundary, must be a literal"
  | classUnclosed => "unclosed character class"
  | countInvalid => "decimal literal invalid"
  | countMissing => "repetition quantifier expects a valid decimal"
  | countRange => "invalid repetition count range, the start must be <= the end"
  | countUnclosed => "unclosed counted repetition"
  | repetitionMissing => "repetition operator missing expression"
  | hexEmpty => "hexadecimal literal empty"
  | hexInvalid => "hexadecimal literal is not a Unicode scalar value"
  | hexDigit => "invalid hexadecimal digit"
  | escapeEnd => "incomplete escape sequence, reached end of pattern prematurely"
  | escapeUnknown => "unrecognized escape sequence"
  | flagDangling => "dangling flag negation operator"
  | flagTwice => "duplicate flag"
  | flagNegatedTwice => "flag negation operator repeated"
  | flagEnd => "expected flag but got end of regex"
  | flagUnknown => "unrecognized flag"
  | nameTwice => "duplicate capture group name"
  | nameEmpty => "empty capture group name"
  | nameInvalid => "invalid capture group character"
  | nameEnd => "unclosed capture group name"
  | groupUnclosed => "unclosed group"
  | groupUnopened => "unopened group"
  | nesting limit =>
    "exceed the maximum number of nested parentheses/brackets (" ++
      String.ofList (Text.ofNat limit) ++ ")"
  | wordUnclosed =>
    "special word boundary assertion is either unclosed or contains an invalid character"
  | wordUnknown =>
    "unrecognized special word boundary assertion, valid choices are: " ++
      "start, end, start-half or end-half"
  | wordEnd =>
    "found either the beginning of a special word boundary or a bounded repetition on a \\b " ++
      "with an opening brace, but no closing brace"
  | propertyInvalid => "invalid Unicode character class"
  | backreference => "backreferences are not supported"
  | lookAround => "look-around, including look-ahead and look-behind, is not supported"
  | notBytes => "Unicode not allowed here"
  | notText => "pattern can match invalid UTF-8"
  | propertyUnknown => "Unicode property not found"
  | valueUnknown => "Unicode property value not found"

/-- A fault with the part of the pattern that has it, and an earlier part that it repeats. -/
structure Error where
  fault : Fault
  span : Span
  earlier : Option Span := none
  deriving DecidableEq, Repr

namespace Error

/-- The parts that are meant, in the order of the pattern. -/
def spans (e : Error) : List Span :=
  (e.span :: e.earlier.toList).mergeSort Span.atMost

/-- Marks under the parts of one line, which is filled up to `column` already. -/
def marks (column : Nat) : List Span → Text
  | [] => []
  | s :: rest =>
    let gap := s.start.column - 1 - column
    let length := max 1 (s.stop.column - s.start.column)
    List.replicate gap ' ' ++ List.replicate length '^' ++ marks (column + gap + length) rest

/-- Numbers are put in front of lines in so many columns, or not at all. -/
def numberWidth (pattern : Text) : Nat :=
  let count := (Text.lines pattern).length + (if Text.endsWith ['\n'] pattern then 1 else 0)
  if count ≤ 1 then 0 else (Text.ofNat count).length

/-- What stands in front of a line. -/
def margin (width number : Nat) : Text :=
  if width = 0 then List.replicate 4 ' '
  else
    let n := Text.ofNat number
    List.replicate (width - n.length) ' ' ++ n ++ [':', ' ']

/-- Lines of the pattern from a line number on, with the marks under them. -/
def markedLines (spans : List Span) (width : Nat) : Nat → List Text → Text
  | _, [] => []
  | number, line :: rest =>
    let here := spans.filter fun s => s.isOneLine && s.start.line = number
    let pad := List.replicate (if width = 0 then 4 else width + 2) ' '
    margin width number ++ line ++ ['\n'] ++
      (if here.isEmpty then [] else pad ++ marks 0 here ++ ['\n']) ++
      markedLines spans width (number + 1) rest

/-- Says in words where a part is that takes more than one line. -/
def placeNote (s : Span) : Text :=
  "on line ".toList ++ Text.ofNat s.start.line ++ " (column ".toList ++
    Text.ofNat s.start.column ++ ") through line ".toList ++ Text.ofNat s.stop.line ++
    " (column ".toList ++ Text.ofNat (s.stop.column - 1) ++ [')']

/-- What is said of a wrong pattern. -/
def report (e : Error) (pattern : Text) : Text :=
  let shown := markedLines e.spans (numberWidth pattern) 1 (Text.lines pattern)
  let long := e.spans.filter fun s => !s.isOneLine
  let divider := List.replicate 79 '~' ++ ['\n']
  "regex parse error:\n".toList ++
    (if pattern.contains '\n' then
      divider ++ shown ++ divider ++
        (if long.isEmpty then [] else Text.joinLines (long.map placeNote) ++ ['\n'])
    else shown) ++
    "error: ".toList ++ e.fault.message.toList

end Error

end StyleGuide.Regex
