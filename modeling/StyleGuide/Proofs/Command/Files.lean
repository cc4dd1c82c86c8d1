import Mathlib
import StyleGuide.Command.Run
import StyleGuide.Proofs.Disk.Changes
import StyleGuide.Proofs.Document.Lossless

namespace StyleGuide

/-- A path leads to a file with these bytes at the place, where before was another file or nothing.
All else is as before, except that directories may be new. -/
structure Disk.Delivers (d e : Disk) (path : Path) (bytes : ByteArray) (place : List Bytes) :
    Prop where
  here : e.here = d.here
  refused : e.refused = d.refused
  located : e.locate .follow path = .ok place
  taken : d.Takes place
  content : e.root.get? place = some (.file bytes)
  elsewhere : ∀ q, q ≠ place → e.root.kindAt q = d.root.kindAt q ∨
    d.root.kindAt q = none ∧ e.root.kindAt q = some .dir

theorem Disk.Grows.delivers {d e f : Disk} {path : Path} {bytes : ByteArray} {place : List Bytes}
    (hgrows : Grows d e) (htakes : e.Takes place) (hputs : Puts e f place (.file bytes))
    (hlocate : f.locate .follow path = .ok place) : Delivers d f path bytes place := by
  refine ⟨hputs.here.trans hgrows.here, hputs.refused.trans hgrows.refused, hlocate,
    hgrows.takes htakes, ?_, fun q hq => ?_⟩
  · rw [← Node.kindAt_eq_file_iff, hputs.kindAt, if_pos rfl]
  · rw [hputs.kindAt, if_neg hq]
    exact hgrows.kindAt q

namespace Command

/-- What a run renders: the configuration is loaded, the format is known, there is something to
scan, the scan succeeds, and the format can hold the document. -/
inductive Renders (o : Options) (host : Host) (d : Disk) :
    Config.Loaded → Format → Text → Prop where
  | intro {c : Config.Loaded} {format : Format} {s : Scan} {records : List Record} {t : Text}
    (loaded : (Config.load d o.config (Disk.pathOf d.here)).2 = .ok c)
    (known : Format.ofName? (o.format.getD "json".toList) = some format)
    (merged : scanOf o c = .ok s)
    (scanned : (s.run host.pool d).result = .ok records)
    (rendered : (Document.assemble ((o.layout.or c.config.layout).getD .category) records).2.render?
      format = some t) :
    Renders o host d c format t

/-- Why a run has nothing to write. -/
inductive Refuses (o : Options) (host : Host) (d : Disk) : Fault → Prop where
  | config {fault : Config.Fault}
    (failed : (Config.load d o.config (Disk.pathOf d.here)).2 = .error fault) :
    Refuses o host d (.config fault)
  | format {c : Config.Loaded} (loaded : (Config.load d o.config (Disk.pathOf d.here)).2 = .ok c)
    (unknown : Format.ofName? (o.format.getD "json".toList) = none) :
    Refuses o host d (.unknownFormat (o.format.getD "json".toList))
  | options {c : Config.Loaded} {format : Format} {fault : Fault}
    (loaded : (Config.load d o.config (Disk.pathOf d.here)).2 = .ok c)
    (known : Format.ofName? (o.format.getD "json".toList) = some format)
    (failed : scanOf o c = .error fault) :
    Refuses o host d fault
  | scan {c : Config.Loaded} {format : Format} {s : Scan} {failure : Failure}
    (loaded : (Config.load d o.config (Disk.pathOf d.here)).2 = .ok c)
    (known : Format.ofName? (o.format.getD "json".toList) = some format)
    (merged : scanOf o c = .ok s)
    (failed : (s.run host.pool d).result = .error failure) :
    Refuses o host d (.scan failure)
  | render {c : Config.Loaded} {format : Format} {s : Scan} {records : List Record}
    (loaded : (Config.load d o.config (Disk.pathOf d.here)).2 = .ok c)
    (known : Format.ofName? (o.format.getD "json".toList) = some format)
    (merged : scanOf o c = .ok s)
    (scanned : (s.run host.pool d).result = .ok records)
    (failed : (Document.assemble ((o.layout.or c.config.layout).getD .category) records).2.render?
      format = none) :
    Refuses o host d .cannotRender

/-- Where the document is written, if it is not printed. -/
def outputPath (o : Options) (c : Config.Loaded) (format : Format) : Option Path :=
  o.output.or (c.outputFolder.map fun dir =>
    Path.join dir (Text.bytes ("stardoc.".toList ++ format.extension)))

def outputDir (o : Options) (c : Config.Loaded) : Option Path :=
  match o.output with
  | some path => (Path.parent? path).filter (!·.isEmpty)
  | none => c.outputFolder

variable {o : Options} {host : Host} {d : Disk} {c : Config.Loaded} {format : Format} {t : Text}

theorem document_of_renders (h : Renders o host d c format t) :
    (document o host d).2 = .ok (format, c, t) := by
  obtain ⟨loaded, known, merged, scanned, rendered⟩ := h
  rw [document]
  split
  · next events fault hload => simp [hload] at loaded
  · next events c' hload =>
    obtain rfl : c' = c := by simpa [hload] using loaded
    simp only [known, merged, scanned, rendered]

theorem document_of_refuses {fault : Fault} (h : Refuses o host d fault) :
    (document o host d).2 = .error fault := by
  rw [document]
  split
  · next events fault' hload =>
    cases h with
    | config failed => simpa [hload] using failed
    | _ loaded => simp [hload] at loaded
  · next events c' hload =>
    cases h with
    | config failed => simp [hload] at failed
    | format loaded unknown => simp only [unknown]
    | @options c format fault loaded known failed =>
      obtain rfl : c' = c := by simpa [hload] using loaded
      simp only [known, failed]
    | @scan c format s failure loaded known merged failed =>
      obtain rfl : c' = c := by simpa [hload] using loaded
      simp only [known, merged, failed]
    | @render c format s records loaded known merged scanned failed =>
      obtain rfl : c' = c := by simpa [hload] using loaded
      simp only [known, merged, scanned, failed]

theorem refuses_or_renders (o : Options) (host : Host) (d : Disk) :
    (∃ fault, Refuses o host d fault) ∨ ∃ c format t, Renders o host d c format t := by
  cases loaded : (Config.load d o.config (Disk.pathOf d.here)).2 with
  | error fault => exact Or.inl ⟨_, .config loaded⟩
  | ok c =>
    cases known : Format.ofName? (o.format.getD "json".toList) with
    | none => exact Or.inl ⟨_, .format loaded known⟩
    | some format =>
      cases merged : scanOf o c with
      | error fault => exact Or.inl ⟨_, .options loaded known merged⟩
      | ok s =>
        cases scanned : (s.run host.pool d).result with
        | error failure => exact Or.inl ⟨_, .scan loaded known merged scanned⟩
        | ok records =>
          cases rendered : (Document.assemble ((o.layout.or c.config.layout).getD .category)
              records).2.render? format with
          | none => exact Or.inl ⟨_, .render loaded known merged scanned rendered⟩
          | some t => exact Or.inr ⟨c, format, t, .intro loaded known merged scanned rendered⟩

theorem grows_prepare (d : Disk) (dir : Path) : Disk.Grows d (prepare d dir).1 := by
  have hgrows := d.grows_createDirAll dir
  rw [prepare]
  split <;> simp_all

theorem destination_eq (o : Options) (c : Config.Loaded) (format : Format) (d : Disk) :
    destination o c format d = match outputDir o c with
      | none => (d, .ok (outputPath o c format))
      | some dir => ((prepare d dir).1, (prepare d dir).2.map fun _ => outputPath o c format) := by
  rw [destination, outputDir, outputPath]
  cases o.output with
  | none => cases c.outputFolder <;> rfl
  | some path =>
    dsimp only
    cases Path.parent? path with
    | none => rfl
    | some dir => cases dir <;> rfl

theorem grows_destination (o : Options) (c : Config.Loaded) (format : Format) (d : Disk) :
    Disk.Grows d (destination o c format d).1 := by
  rw [destination_eq]
  split
  · exact .refl d
  · exact grows_prepare d _

theorem destination_eq_ok {target : Option Path} (h : (destination o c format d).2 = .ok target) :
    target = outputPath o c format := by
  rw [destination_eq] at h
  split at h
  · exact (Except.ok.inj h).symm
  · next dir _ =>
    cases hprepare : (prepare d dir).2 with
    | error fault =>
      rw [hprepare] at h
      cases h
    | ok _ =>
      rw [hprepare] at h
      exact (Except.ok.inj h).symm

theorem deliver_of_none (h : outputPath o c format = none) :
    deliver o c format t d = (d, .ok t) := by
  obtain ⟨houtput, hfolder⟩ : o.output = none ∧ c.outputFolder = none := by
    simpa [outputPath] using h
  simp [deliver, destination, houtput, hfolder]

theorem deliver_of_some {path : Path} (h : outputPath o c format = some path) :
    ((deliver o c format t d).2 = .ok [] ∧
      ∃ place, Disk.Delivers d (deliver o c format t d).1 path (Text.toBytes t) place) ∨
    ∃ fault, (deliver o c format t d).2 = .error fault ∧
      Disk.Grows d (deliver o c format t d).1 := by
  have hgrows := grows_destination o c format d
  rw [deliver]
  split
  · next e fault hdest =>
    rw [hdest] at hgrows
    exact Or.inr ⟨fault, rfl, hgrows⟩
  · next e hdest =>
    have htarget := destination_eq_ok (congrArg Prod.snd hdest)
    rw [h] at htarget
    cases htarget
  · next e path' hdest =>
    rw [hdest] at hgrows
    have htarget := destination_eq_ok (congrArg Prod.snd hdest)
    obtain rfl : path' = path := Option.some.inj (htarget.trans h)
    split
    · next f hwrite =>
      obtain ⟨place, htakes, hputs, hlocate⟩ := Disk.write_eq_ok hwrite
      exact Or.inl ⟨rfl, place, hgrows.delivers htakes hputs hlocate⟩
    · next cause _ => exact Or.inr ⟨_, rfl, hgrows⟩

variable {args : List Bytes} (host)

theorem run_of_refuses (hargs : Options.parse args = .ok o) {fault : Fault}
    (h : Refuses o host d fault) :
    (run args host d).code = 1 ∧ (run args host d).stdout = [] ∧
      (run args host d).disk = d := by
  have hdocument := document_of_refuses h
  simp only [run, hargs, runWith]
  split
  · exact ⟨rfl, rfl, rfl⟩
  · next hok =>
    rw [hok] at hdocument
    cases hdocument

theorem run_of_renders (hargs : Options.parse args = .ok o) (h : Renders o host d c format t) :
    (run args host d).disk = (deliver o c format t d).1 ∧
      match (deliver o c format t d).2 with
      | .ok printed =>
        (run args host d).code = 0 ∧ (run args host d).stdout = printed
      | .error _ => (run args host d).code = 1 ∧ (run args host d).stdout = [] := by
  have hdocument := document_of_renders h
  simp only [run, hargs, runWith]
  split
  · next herror =>
    rw [herror] at hdocument
    cases hdocument
  · next hok =>
    rw [hok] at hdocument
    cases hdocument
    cases deliver o c format t d with
    | mk e result => cases result <;> exact ⟨rfl, rfl, rfl⟩

theorem run_of_print (hargs : Options.parse args = .ok o) (h : Renders o host d c format t)
    (hpath : outputPath o c format = none) :
    (run args host d).code = 0 ∧ (run args host d).stdout = t ∧
      (run args host d).disk = d := by
  obtain ⟨hdisk, hexit⟩ := run_of_renders host hargs h
  rw [deliver_of_none hpath] at hdisk hexit
  exact ⟨hexit.1, hexit.2, hdisk⟩

theorem run_of_write (hargs : Options.parse args = .ok o) (h : Renders o host d c format t)
    {path : Path} (hpath : outputPath o c format = some path) :
    (run args host d).stdout = [] ∧
      ((run args host d).code = 0 ∧
          (∃ place, Disk.Delivers d (run args host d).disk path (Text.toBytes t) place) ∨
        (run args host d).code = 1 ∧ Disk.Grows d (run args host d).disk) := by
  obtain ⟨hdisk, hexit⟩ := run_of_renders host hargs h
  rw [hdisk]
  rcases deliver_of_some (t := t) (d := d) hpath with ⟨hok, hdelivers⟩ | ⟨fault, herror, hgrows⟩
  · rw [hok] at hexit
    exact ⟨hexit.2, Or.inl ⟨hexit.1, hdelivers⟩⟩
  · rw [herror] at hexit
    exact ⟨hexit.2, Or.inr ⟨hexit.1, hgrows⟩⟩

/-- A command line that is not a proper one leaves the disk alone, and so does one that asks for help.
A run that fails before there is a document prints nothing and leaves the disk alone. Otherwise the
document is printed and the disk is left alone, or nothing is printed, and the document becomes the
content of the file at the output path. All other files and links are as before, also when the
document cannot be written. -/
theorem run_all_or_nothing (args : List Bytes) (host : Host) (d : Disk) :
    (Options.parse args = .error .usage →
      (run args host d).code = 2 ∧ (run args host d).stdout = [] ∧ (run args host d).disk = d) ∧
    (∀ h, Options.parse args = .error (.help h) →
      (run args host d).code = 0 ∧ (run args host d).stdout = host.help h ∧
        (run args host d).disk = d) ∧
    ∀ o, Options.parse args = .ok o →
      ((∃ fault, Refuses o host d fault) ∨ ∃ c format t, Renders o host d c format t) ∧
      (∀ fault, Refuses o host d fault →
        (run args host d).code = 1 ∧ (run args host d).stdout = [] ∧ (run args host d).disk = d) ∧
      ∀ c format t, Renders o host d c format t →
        (outputPath o c format = none →
          (run args host d).code = 0 ∧ (run args host d).stdout = t ∧ (run args host d).disk = d) ∧
        ∀ path, outputPath o c format = some path →
          (run args host d).stdout = [] ∧
            ((run args host d).code = 0 ∧
                (∃ place, Disk.Delivers d (run args host d).disk path (Text.toBytes t) place) ∨
              (run args host d).code = 1 ∧ Disk.Grows d (run args host d).disk) := by
  refine ⟨fun hargs => ?_, fun h hargs => ?_, fun o hargs => ⟨refuses_or_renders o host d,
    fun fault h => ?_, fun c format t h => ⟨fun hpath => ?_, fun path hpath => ?_⟩⟩⟩
  · simp [run, hargs]
  · simp [run, hargs]
  · exact run_of_refuses host hargs h
  · exact run_of_print host hargs h hpath
  · exact run_of_write host hargs h hpath

def stylesName : Bytes := Text.bytes "styles".toList

/-- A directory with one style sheet. -/
def styles : Node :=
  .dir [(Text.bytes "a.css".toList, .file (Text.toBytes "/** @name a\n * @category x */".toList))]

/-- The record of the style sheet. -/
def sheet : Record where
  parameters := .ofList [("category".toList, .text ['x']), ("name".toList, .text ['a'])]
  sourcePath := Text.bytes "a.css".toList

theorem exists_render?_sheet (format : Format) :
    ∃ t, (Document.assemble .category [sheet]).2.render? format = some t :=
  Document.exists_render? .category format (List.forall_mem_singleton.mpr ⟨_, rfl⟩)

def bareSheets : Disk where
  root := .dir [(stylesName, styles)]

theorem renders_bareSheets (help : Help → Text) :
    ∃ t, Renders { styleRoot := some stylesName } { help } bareSheets {} .json t ∧
      Json.parse? t ≠ none := by
  obtain ⟨t, rendered⟩ := exists_render?_sheet .json
  have hfile : bareSheets.isFile (Path.join (Disk.pathOf []) Config.defaultName) = false := by cbv
  have loaded : (Config.load bareSheets none (Disk.pathOf [])).2 = .ok {} := by
    simp only [Config.load, Config.fileToRead?, hfile]
    rfl
  have known : Format.ofName? "json".toList = some .json := rfl
  have merged : scanOf { styleRoot := some stylesName } {} = .ok { styleRoot := stylesName } := rfl
  have scanned : (Scan.run { styleRoot := stylesName } (fun _ => none) bareSheets).result =
      .ok [sheet] := by cbv
  have hparse := Document.parse?_renderJson? rendered
  exact ⟨t, .intro loaded known merged scanned rendered, by simp [hparse]⟩

def printsUsage : Host where
  help _ := "Usage: stardoc [OPTIONS] [STYLE_ROOT]\n".toList

theorem run_all_or_nothing_sheets :
    (run [Text.bytes "-x".toList] printsUsage bareSheets).code = 2 ∧
      (run [Text.bytes "-vh".toList] printsUsage bareSheets).stdout = printsUsage.help .short ∧
      ∃ t, Renders { styleRoot := some stylesName } printsUsage bareSheets {} .json t ∧
        (run [stylesName] printsUsage bareSheets).code = 0 ∧
        (run [stylesName] printsUsage bareSheets).stdout = t ∧
        (run [stylesName] printsUsage bareSheets).disk = bareSheets := by
  obtain ⟨t, hrenders, -⟩ := renders_bareSheets printsUsage.help
  have husage := (run_all_or_nothing [Text.bytes "-x".toList] printsUsage bareSheets).1 (by decide)
  have hhelp := (run_all_or_nothing [Text.bytes "-vh".toList] printsUsage bareSheets).2.1 .short
    (by decide)
  have hrun := (run_all_or_nothing [stylesName] printsUsage bareSheets).2.2
    { styleRoot := some stylesName } (by decide)
  exact ⟨husage.1, hhelp.2.1, t, hrenders, (hrun.2.2 _ _ _ hrenders).1 rfl⟩

/-- Asked for help, the command succeeds and prints something else than the document. -/
theorem help_printed :
    ∃ t, Renders { styleRoot := some stylesName } printsUsage bareSheets {} .json t ∧
      outputPath { styleRoot := some stylesName } {} .json = none ∧
      (run [Text.bytes "-h".toList, stylesName] printsUsage bareSheets).code = 0 ∧
      (run [Text.bytes "-h".toList, stylesName] printsUsage bareSheets).stdout ≠ t := by
  obtain ⟨t, hrenders, hparse⟩ := renders_bareSheets printsUsage.help
  have hargs : Options.parse [Text.bytes "-h".toList, stylesName] = .error (.help .short) := by
    decide
  have hstdout : (run [Text.bytes "-h".toList, stylesName] printsUsage bareSheets).stdout =
      printsUsage.help .short := by rw [run, hargs]
  have hcode : (run [Text.bytes "-h".toList, stylesName] printsUsage bareSheets).code = 0 := by
    rw [run, hargs]
  have husage : Json.parse? (printsUsage.help .short) = none := by cbv
  refine ⟨t, hrenders, rfl, hcode, ?_⟩
  rw [hstdout]
  rintro rfl
  exact hparse husage

end Command

end StyleGuide
