import StyleGuide.Report

/-!
Log entries: what the events of a run come down to in the log.
-/

namespace StyleGuide.Log

/-- How urgent an entry is, the most urgent first. -/
inductive Level where
  | error
  | warn
  | info
  | debug
  | trace
  deriving DecidableEq, Repr

/-- Entries of a level are shown from this threshold on. -/
def Level.rank : Level → Nat
  | error => 1
  | warn => 2
  | info => 3
  | debug => 4
  | trace => 5

/-- The level's name, in five columns. -/
def Level.label : Level → String
  | error => "ERROR"
  | warn => "WARN "
  | info => "INFO "
  | debug => "DEBUG"
  | trace => "TRACE"

structure Entry where
  level : Level
  /-- The part of the program that the entry comes from. -/
  origin : Text
  message : Text
  deriving DecidableEq, Repr

def originOf : Note → String
  | .loadedConfig _ => "stardoc::config"
  | .foundFiles .. | .readFile .. | .readAll _ => "stardoc::pipeline"
  | .skippedBlock .. => "stardoc::parser"
  | .leftOut _ => "stardoc::assemble::category"

def entryOf : Event → Entry
  | .warning w => ⟨.warn, "stardoc::error".toList, w.message⟩
  | .note n => ⟨.debug, (originOf n).toList, n.message⟩

/-- The entry that ends a run with warnings. -/
def finished (count : Nat) : Entry :=
  ⟨.warn, "stardoc".toList,
    "finished with ".toList ++ Text.ofNat count ++ " warning(s)".toList⟩

/-- A message's further lines stand four spaces in. -/
def indent (message : Text) : Text :=
  message.flatMap fun c => if c = '\n' then ['\n', ' ', ' ', ' ', ' '] else [c]

def Entry.line (e : Entry) : Text :=
  '[' :: e.level.label.toList ++ ' ' :: e.origin ++ [']', ' '] ++ indent e.message ++ ['\n']

end StyleGuide.Log
