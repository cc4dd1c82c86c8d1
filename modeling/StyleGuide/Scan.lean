import StyleGuide.Discovery
import StyleGuide.Markup
import StyleGuide.Source

/-!
Scanning a style root: its files are found, read, and their records completed with markup.
-/

namespace StyleGuide

structure Scan where
  styleRoot : Path
  /-- Where markup is looked for, if not in the style root. -/
  markupRoot : Option Path := none
  filter : Filter := .default
  dialect : Dialect := .permissive
  /-- How many files may be read at a time. -/
  jobs : Nat := 4

namespace Scan

/-- The records of one file. All its comments are read before the first markup is looked for. -/
def file (s : Scan) (d : Disk) (f : Discovery.Found) : Outcome (List Record) :=
  match d.readText f.path with
  | .error t => .fail (.unreadable f.path t)
  | .ok source =>
    (Source.read s.dialect f.relative source).andThen fun comments =>
    (Outcome.each (Markup.attach d (s.markupRoot.getD s.styleRoot))
      (comments.map (Record.ofComment f.relative))).andThen fun records =>
    ⟨[.note (.readFile f.relative records.length)], .ok records⟩

/-- How many workers read the files. -/
def workers (s : Scan) : Nat := max s.jobs 1

/-- Builds the pool of workers. The host says why a pool of so many cannot be built, if it
cannot. -/
def build (s : Scan) (pool : Nat → Option Text) : Outcome Unit :=
  match pool s.workers with
  | none => pure ()
  | some reason => .fail (.unreadable s.styleRoot (.other reason))

/-- The records of all files, in the order of discovery. Every file is read, also when another one
fails; the failure is that of the first file that fails. -/
def run (s : Scan) (pool : Nat → Option Text) (d : Disk) : Outcome (List Record) :=
  (Discovery.styleFiles d s.filter s.styleRoot).andThen fun files =>
  (Outcome.tell [.note (.foundFiles files.length s.styleRoot)]).andThen fun _ =>
  (s.build pool).andThen fun _ =>
  (Outcome.all (files.map (s.file d))).andThen fun parts =>
  ⟨[.note (.readAll parts.flatten.length)], .ok parts.flatten⟩

end Scan

end StyleGuide
