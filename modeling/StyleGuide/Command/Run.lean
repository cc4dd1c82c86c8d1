import StyleGuide.Command.Options
import StyleGuide.Config.File
import StyleGuide.Disk.Change
import StyleGuide.Document.Format
import StyleGuide.Log.Spec
import StyleGuide.Scan

/-!
A run of the command: from the command line and a disk to what is printed and what the disk holds
afterwards. Nothing is written before the whole document is there.
-/

namespace StyleGuide.Command

/-- Why a run fails. -/
inductive Fault where
  | config (fault : Config.Fault)
  | unknownFormat (name : Text)
  | noStyleRoot
  | scan (failure : Failure)
  /-- The document names a file whose path the format cannot hold. -/
  | cannotRender
  | cannotCreate (dir : Path) (cause : Disk.Trouble)
  | cannotWrite (path : Path) (cause : Disk.Trouble)
  deriving DecidableEq, Repr

def Fault.message : Fault → Text
  | config fault => fault.message
  | unknownFormat name => Format.unknownMessage name
  | noStyleRoot =>
    "no style root given: pass STYLE_ROOT or set styleFolder in stardoc.json".toList
  | scan failure => failure.message
  | cannotRender => "failed to serialize document".toList
  | cannotCreate dir _ => "failed to create output directory: ".toList ++ Bytes.shown dir
  | cannotWrite path _ => "failed to write ".toList ++ Bytes.shown path

def Fault.cause? : Fault → Option Text
  | config fault => some fault.cause
  | unknownFormat _ | noStyleRoot => none
  | scan failure => failure.cause?
  | cannotRender => some "path contains invalid UTF-8 characters".toList
  | cannotCreate _ cause | cannotWrite _ cause => some cause.message

/-- What is printed of a fault: its message, and below it the cause. -/
def Fault.report (fault : Fault) : Text :=
  "Error: ".toList ++ fault.message ++
    (match fault.cause? with
      | some cause => "\n\nCaused by:\n    ".toList ++ cause
      | none => []) ++ ['\n']

/-- What to scan: the command line's word counts before the configuration's, and both add to the
filter. -/
def scanOf (o : Options) (c : Config.Loaded) : Except Fault Scan :=
  match o.styleRoot.or c.styleFolder with
  | none => .error .noStyleRoot
  | some styleRoot =>
    let filter := Filter.default.withExtensions (c.config.styleExtensions ++ o.extensions)
    match filter.withIgnores (c.config.styleIgnore ++ o.ignore) with
    | .error failure => .error (.scan failure)
    | .ok filter =>
      .ok {
        styleRoot := styleRoot
        markupRoot := o.markup.or c.markupFolder
        filter := filter
        dialect := (o.dialect.or c.config.dialect).getD .permissive
        jobs := (o.jobs.or c.config.jobs).getD 4 }

/-- What a run depends on besides its command line and the disk. -/
structure Host where
  /-- The logging that the environment asks for. -/
  logging : Option Text := none
  /-- Why a pool of so many workers cannot be built, if it cannot. -/
  pool : Nat → Option Text := fun _ => none
  help : Help → Text := fun _ => []

/-- The document that a run writes, as text, and its format. -/
def document (o : Options) (host : Host) (d : Disk) :
    List Event × Except Fault (Format × Config.Loaded × Text) :=
  match Config.load d o.config (Disk.pathOf d.here) with
  | (events, .error fault) => (events, .error (.config fault))
  | (events, .ok c) =>
    let name := o.format.getD "json".toList
    match Format.ofName? name with
    | none => (events, .error (.unknownFormat name))
    | some format =>
      match scanOf o c with
      | .error fault => (events, .error fault)
      | .ok s =>
        let scanned := s.run host.pool d
        match scanned.result with
        | .error failure => (events ++ scanned.events, .error (.scan failure))
        | .ok records =>
          let layout := (o.layout.or c.config.layout).getD .category
          let (more, doc) := Document.assemble layout records
          (events ++ scanned.events ++ more,
            match doc.render? format with
            | none => .error .cannotRender
            | some t => .ok (format, c, t))

/-- Makes the directory that an output goes to. -/
def prepare (d : Disk) (dir : Path) : Disk × Except Fault Unit :=
  match d.createDirAll dir with
  | (d, .ok ()) => (d, .ok ())
  | (d, .error cause) => (d, .error (.cannotCreate dir cause))

/-- Where the document goes, with the directories for it in place; nowhere means that it is
printed. -/
def destination (o : Options) (c : Config.Loaded) (format : Format) (d : Disk) :
    Disk × Except Fault (Option Path) :=
  match o.output, c.outputFolder with
  | some path, _ =>
    match Path.parent? path with
    | none | some [] => (d, .ok (some path))
    | some dir =>
      let (d, r) := prepare d dir
      (d, r.map fun _ => some path)
  | none, some dir =>
    let (d, r) := prepare d dir
    (d, r.map fun _ => some (Path.join dir (Text.bytes ("stardoc.".toList ++ format.extension))))
  | none, none => (d, .ok none)

/-- Writes the document, and gives what is printed of it. -/
def deliver (o : Options) (c : Config.Loaded) (format : Format) (t : Text) (d : Disk) :
    Disk × Except Fault Text :=
  match destination o c format d with
  | (d, .error fault) => (d, .error fault)
  | (d, .ok none) => (d, .ok t)
  | (d, .ok (some path)) =>
    match d.write path (Text.toBytes t) with
    | .ok d => (d, .ok [])
    | .error cause => (d, .error (.cannotWrite path cause))

/-- How a run ends. -/
structure Exit where
  code : Nat
  stdout : Text := []
  stderr : Text := []
  disk : Disk

/-- What is logged: warnings, or everything on request, unless the environment has its own say. -/
def logSpec (o : Options) (host : Host) : Log.Spec :=
  .parse (host.logging.getD (if o.verbose then "debug".toList else "warn".toList))

def failed (log : Text) (fault : Fault) (d : Disk) : Exit :=
  ⟨1, [], log ++ fault.report, d⟩

/-- Runs with options that have been read. -/
def runWith (o : Options) (host : Host) (d : Disk) : Exit :=
  let spec := logSpec o host
  let log (entries : List Log.Entry) := spec.preamble ++ spec.write entries
  match document o host d with
  | (events, .error fault) => failed (log (events.map Log.entryOf)) fault d
  | (events, .ok (format, c, t)) =>
    match deliver o c format t d with
    | (d, .error fault) => failed (log (events.map Log.entryOf)) fault d
    | (d, .ok printed) =>
      let count := (warnings events).length
      let ending := if count = 0 then [] else [Log.finished count]
      ⟨0, printed, log (events.map Log.entryOf ++ ending), d⟩

/-- Runs the command with its arguments. -/
def run (args : List Bytes) (host : Host) (d : Disk) : Exit :=
  match Options.parse args with
  | .error .usage => { code := 2, disk := d }
  | .error (.help h) => { code := 0, stdout := host.help h, disk := d }
  | .ok o => runWith o host d

end StyleGuide.Command
