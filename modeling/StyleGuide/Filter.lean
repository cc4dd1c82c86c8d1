import StyleGuide.Failure
import StyleGuide.Path

/-!
Which files count as style files: those with a known extension whose base name matches no ignore
pattern.
-/

namespace StyleGuide

structure Filter where
  extensions : List Text
  ignored : List Pattern

namespace Filter

def defaultExtensions : List Text := ["css", "scss", "sass", "less", "styl"].map String.toList

def default : Filter := ⟨defaultExtensions, []⟩

instance : Inhabited Filter := ⟨default⟩

/-- Also takes files with the extension. Dots in front of it are left away. -/
def withExtension (f : Filter) (ext : Text) : Filter :=
  let ext := ext.dropWhile (· = '.')
  if ext.isEmpty || f.extensions.contains ext then f
  else { f with extensions := f.extensions ++ [ext] }

/-- Leaves out files whose base name matches the pattern. -/
def withIgnore (f : Filter) (pattern : Text) : Except Failure Filter :=
  match Pattern.parse pattern with
  | .ok p => .ok { f with ignored := f.ignored ++ [p] }
  | .error cause => .error (.badPattern pattern cause)

/-- Adds the patterns in turn, up to the first bad one. -/
def withIgnores (f : Filter) : List Text → Except Failure Filter
  | [] => .ok f
  | pattern :: patterns =>
    match f.withIgnore pattern with
    | .ok g => g.withIgnores patterns
    | .error failure => .error failure

def withExtensions (f : Filter) (exts : List Text) : Filter := exts.foldl withExtension f

/-- Patterns are matched against the base name as it is shown. An extension that spells no text is
none of those that are known. -/
def accepts (f : Filter) (path : Path) : Bool :=
  match (Path.extension? path).bind Bytes.text? with
  | none => false
  | some ext =>
    f.extensions.contains ext &&
      !f.ignored.any fun p => p.matchesText (Bytes.shown ((Path.fileName? path).getD []))

inductive Step where
  | ext (ext : Text)
  | ignore (pattern : Text)
  | accepts (path : Path)
  deriving DecidableEq, Repr

inductive Answer where
  | done
  | refused (failure : Failure)
  | verdict (accepted : Bool)
  deriving DecidableEq, Repr

/-- The filter after a step, and the answer to it. A bad pattern leaves the filter as it was. -/
def step (f : Filter) : Step → Filter × Answer
  | .ext ext => (f.withExtension ext, .done)
  | .ignore pattern =>
    match f.withIgnore pattern with
    | .ok g => (g, .done)
    | .error failure => (f, .refused failure)
  | .accepts path => (f, .verdict (f.accepts path))

def run (f : Filter) : List Step → List Answer
  | [] => []
  | s :: steps => (f.step s).2 :: (f.step s).1.run steps

end Filter

end StyleGuide
