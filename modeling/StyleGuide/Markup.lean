import StyleGuide.Disk
import StyleGuide.Record
import StyleGuide.Report

/-!
Example markup, which a record names by file. The file is looked for in the markup root, in the
directory that the record's own file has in the style root.
-/

namespace StyleGuide.Markup

/-- Whether a component of a file's name counts. A slash or a dot in front does not, so that the
file always lies below the markup root unless the name climbs out by itself. -/
def counts : Path.Component → Bool
  | .name _ | .parent => true
  | .root | .here => false

/-- The path of a record's markup. -/
def pathFor (root sourcePath : Path) (file : Text) : Path :=
  Path.join (Path.join root ((Path.parent? sourcePath).getD []))
    (Path.ofComponents ((Path.components (Text.bytes file)).filter counts))

/-- Reads a markup file. -/
def load (d : Disk) (path : Path) : Except Failure Text :=
  match d.find path with
  | .error .noEntry => .error (.notFound path)
  | .error t => .error (.unreadable path t)
  | .ok (.file _) =>
    match d.readText path with
    | .ok t => .ok t
    | .error t => .error (.unreadable path t)
  | .ok _ => .error (.notAFile path)

/-- Attaches the markup that a record names, if it names some. -/
def attach (d : Disk) (root : Path) (r : Record) : Outcome Record :=
  match r.parameters.get? "markup".toList with
  | none => pure r
  | some .flag => ⟨[.warning (.emptyMarkup r.sourcePath)], .ok r⟩
  | some (.text file) =>
    match load d (pathFor root r.sourcePath file) with
    | .ok markup => pure { r with markup := some markup }
    | .error failure => .fail failure

end StyleGuide.Markup
