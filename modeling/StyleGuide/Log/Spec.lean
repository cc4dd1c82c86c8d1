import StyleGuide.Log
import StyleGuide.Log.Plain
import StyleGuide.Regex

/-!
Which entries are logged. A specification is a list of directives between commas, each a threshold,
an origin, or an origin with its threshold; behind a slash may stand a regular expression that a
message has to match somewhere.
-/

namespace StyleGuide.Log

/-- A threshold for the origins that start with a name, or for all. -/
structure Directive where
  name : Option Text
  threshold : Nat
  deriving DecidableEq, Repr

structure Spec where
  directives : List Directive := []
  /-- What the messages have to match. -/
  wanted : Option Regex := none
  /-- What is wrong with the parts that do not count. -/
  complaints : List Text := []
  deriving DecidableEq, Repr

namespace Spec

def threshold? (t : Text) : Option Nat :=
  ["off", "error", "warn", "info", "debug", "trace"].findIdx? fun name =>
    name.toList = t.map Char.toLower

/-- The threshold of an origin that is named without one. -/
def everything : Nat := 5

/-- A later directive for a name takes the place of an earlier one. -/
def add (s : Spec) (d : Directive) : Spec :=
  if s.directives.any fun e => e.name = d.name then
    { s with directives := s.directives.map fun e => if e.name = d.name then d else e }
  else { s with directives := s.directives ++ [d] }

def complain (s : Spec) (complaint : Text) : Spec :=
  { s with complaints := s.complaints ++ [complaint] }

def invalidPart (part : Text) : Text := "invalid logging spec '".toList ++ part ++ ['\'']

def addPart (s : Spec) (part : Text) : Spec :=
  match Text.pieces '=' part with
  | [name] =>
    match threshold? name with
    | some n => s.add ⟨none, n⟩
    | none => s.add ⟨some name, everything⟩
  | [name, level] =>
    let level := Text.trim level
    if level.isEmpty then s.add ⟨some name, everything⟩
    else match threshold? level with
      | some n => s.add ⟨some name, n⟩
      | none => s.complain (invalidPart level)
  | _ => s.complain (invalidPart part)

def ofParts (t : Text) : Spec :=
  (((Text.pieces ',' t).map Text.trim).filter (!·.isEmpty)).foldl addPart {}

/-- Asks for messages that match a pattern, unless the pattern is refused. -/
def want (s : Spec) (pattern : Text) : Spec :=
  match Regex.parse pattern with
  | .ok r => { s with wanted := some r }
  | .error refusal => s.complain ("invalid regex filter - ".toList ++ refusal.message pattern)

def parse (t : Text) : Spec :=
  match Text.pieces '/' t with
  | [parts] => ofParts parts
  | [parts, pattern] => (ofParts parts).want pattern
  | _ => { complaints := [invalidPart t ++ " (too many '/'s)".toList] }

/-- The directives from the longest name to the shortest, the later one first among equals. Errors
are logged where nothing is said. -/
def ranked (s : Spec) : List Directive :=
  let ds := if s.directives.isEmpty then [⟨none, Level.error.rank⟩] else s.directives
  (ds.mergeSort fun a b => (a.name.getD []).length ≤ (b.name.getD []).length).reverse

/-- Whether an entry is logged: the directive with the longest fitting name decides. -/
def enables (s : Spec) (e : Entry) : Bool :=
  (match s.ranked.find? fun d => Text.startsWith (d.name.getD []) e.origin with
    | some d => e.level.rank ≤ d.threshold
    | none => false) &&
  (match s.wanted with
    | some r => r.matchesWithin e.message
    | none => true)

/-- What is written about the specification itself. -/
def preamble (s : Spec) : Text :=
  s.complaints.flatMap fun c => "warning: ".toList ++ c ++ ", ignoring it\n".toList

/-- The log of the entries. -/
def write (s : Spec) (entries : List Entry) : Text :=
  (entries.filter s.enables).flatMap fun e => plain e.line

end Spec

end StyleGuide.Log
