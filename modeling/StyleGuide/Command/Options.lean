import StyleGuide.Document
import StyleGuide.Source
import StyleGuide.Text.Decimal

/-!
The command line: one optional argument, and options in a short and a long form. Arguments are
bytes; those that name files may be any, the others have to spell texts.
-/

namespace StyleGuide.Command

structure Options where
  styleRoot : Option Path := none
  markup : Option Path := none
  ignore : List Text := []
  extensions : List Text := []
  dialect : Option Dialect := none
  layout : Option Layout := none
  format : Option Text := none
  output : Option Path := none
  jobs : Option Nat := none
  config : Option Path := none
  verbose : Bool := false
  deriving DecidableEq, Repr

/-- The help in brief, or in full. -/
inductive Help where
  | short
  | long
  deriving DecidableEq, Repr

/-- Why a command line does not lead to a run. -/
inductive Stop where
  /-- It is not a proper one. -/
  | usage
  /-- It asks for help. -/
  | help (h : Help)
  deriving DecidableEq, Repr

/-- What is missing makes the command line improper. -/
def Stop.unless {α : Type} : Option α → Except Stop α
  | some a => .ok a
  | none => .error usage

/-- The options that take a value. -/
inductive Key where
  | markup
  | ignore
  | ext
  | dialect
  | layout
  | format
  | output
  | jobs
  | config
  deriving DecidableEq, Repr

/-- What a letter or a long name asks for. -/
inductive Switch where
  | verbose
  | help
  | key (k : Key)
  deriving DecidableEq, Repr

namespace Switch

def ofLetter? : Char → Option Switch
  | 'm' => some (.key .markup)
  | 'i' => some (.key .ignore)
  | 'e' => some (.key .ext)
  | 'd' => some (.key .dialect)
  | 'l' => some (.key .layout)
  | 'f' => some (.key .format)
  | 'o' => some (.key .output)
  | 'j' => some (.key .jobs)
  | 'c' => some (.key .config)
  | 'v' => some .verbose
  | 'h' => some .help
  | _ => none

def longNames : List (String × Switch) :=
  [("markup", .key .markup), ("ignore", .key .ignore), ("ext", .key .ext),
    ("dialect", .key .dialect), ("layout", .key .layout), ("format", .key .format),
    ("output", .key .output), ("jobs", .key .jobs), ("config", .key .config),
    ("verbose", .verbose), ("help", .help)]

def ofName? (name : Bytes) : Option Switch :=
  (longNames.find? fun e => Text.bytes e.1.toList = name).map Prod.snd

end Switch

/-- A number of at most 64 bits, with a plus sign in front or without. -/
def count? (t : Text) : Option Nat := Text.word? (Text.dropStart ['+'] t)

/-- A value that is given at most once. -/
def once {α : Type} (old : Option α) (new : Option α) : Option (Option α) :=
  if old.isSome || new.isNone then none else some new

def path? (t : Bytes) : Option Path := if t.isEmpty then none else some t

def hyphen : UInt8 := 45

def equals : UInt8 := 61

/-- What an argument is by the hyphens in front of it. -/
inductive Argument where
  /-- Two hyphens by themselves: what follows is no option. -/
  | escape
  | name (name : Bytes)
  | letters (letters : Bytes)
  | plain (t : Bytes)
  deriving DecidableEq, Repr

def Argument.ofBytes (t : Bytes) : Argument :=
  match Text.after? [hyphen, hyphen] t with
  | some [] => escape
  | some n => name n
  | none =>
    match Text.after? [hyphen] t with
    | none | some [] => plain t
    | some ls => letters ls

namespace Options

/-- Takes an option's value, unless it is not one or the option was given before. -/
def set? (o : Options) (k : Key) (t : Bytes) : Option Options :=
  match k with
  | .markup => (once o.markup (path? t)).map fun v => { o with markup := v }
  | .ignore => (Bytes.text? t).map fun v => { o with ignore := o.ignore ++ [v] }
  | .ext => (Bytes.text? t).map fun v => { o with extensions := o.extensions ++ [v] }
  | .dialect =>
    (once o.dialect ((Bytes.text? t).bind Dialect.ofName?)).map fun v => { o with dialect := v }
  | .layout =>
    (once o.layout ((Bytes.text? t).bind Layout.ofName?)).map fun v => { o with layout := v }
  | .format => (once o.format (Bytes.text? t)).map fun v => { o with format := v }
  | .output => (once o.output (path? t)).map fun v => { o with output := v }
  | .jobs => (once o.jobs ((Bytes.text? t).bind count?)).map fun v => { o with jobs := v }
  | .config => (once o.config (path? t)).map fun v => { o with config := v }

def setVerbose? (o : Options) : Option Options :=
  if o.verbose then none else some { o with verbose := true }

/-- Takes the one argument that is not an option. -/
def setRoot? (o : Options) (t : Bytes) : Option Options :=
  (once o.styleRoot (path? t)).map fun v => { o with styleRoot := v }

/-- Takes the letters behind a single hyphen. The last one may be an option whose value is still to
come; what follows an option's letter is its value, with an equals sign before it or without. -/
def letters (o : Options) : Bytes → Except Stop (Options × Option Key)
  | [] => .ok (o, none)
  | b :: rest =>
    match Switch.ofLetter? (Char.ofNat b.toNat) with
    | none => .error .usage
    | some .help => .error (.help .short)
    | some .verbose => (Stop.unless o.setVerbose?).bind fun o => o.letters rest
    | some (.key k) =>
      if rest.isEmpty then .ok (o, some k)
      else (Stop.unless (o.set? k (Text.dropStart [equals] rest))).map fun o => (o, none)

/-- Takes what stands behind two hyphens: a name, or a name and a value with an equals sign between
them. -/
def name (o : Options) (t : Bytes) : Except Stop (Options × Option Key) :=
  match Text.cut? [equals] t with
  | none =>
    match Switch.ofName? t with
    | none => .error .usage
    | some .help => .error (.help .long)
    | some .verbose => (Stop.unless o.setVerbose?).map fun o => (o, none)
    | some (.key k) => .ok (o, some k)
  | some (name, value) =>
    match Switch.ofName? name with
    | some (.key k) => (Stop.unless (o.set? k value)).map fun o => (o, none)
    | _ => .error .usage

/-- Takes arguments that come behind two hyphens by themselves: none of them is an option. -/
def plainArguments (o : Options) : List Bytes → Except Stop Options
  | [] => .ok o
  | t :: ts => (Stop.unless (o.setRoot? t)).bind fun o => o.plainArguments ts

/-- Takes the arguments in turn; `pending` is the option whose value comes next. The first one that is
wrong or asks for help ends it. -/
def take (o : Options) (pending : Option Key) : List Bytes → Except Stop Options
  | [] => if pending.isSome then .error .usage else .ok o
  | t :: ts =>
    match Argument.ofBytes t, pending with
    | .plain t, some k => (Stop.unless (o.set? k t)).bind fun o => o.take none ts
    | .plain t, none => (Stop.unless (o.setRoot? t)).bind fun o => o.take none ts
    | _, some _ => .error .usage
    | .escape, none => o.plainArguments ts
    | .name n, none => (o.name n).bind fun (o, next) => o.take next ts
    | .letters ls, none => (o.letters ls).bind fun (o, next) => o.take next ts

/-- The options that a command line gives. -/
def parse (args : List Bytes) : Except Stop Options := take {} none args

end Options

end StyleGuide.Command
