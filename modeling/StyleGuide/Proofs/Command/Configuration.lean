import Mathlib
import StyleGuide.Proofs.Command.Files
import StyleGuide.Proofs.Config
import StyleGuide.Proofs.Disk.Repeats

namespace StyleGuide

theorem Disk.Delivers.keeps {d e : Disk} {path : Path} {bytes : ByteArray} {place : List Bytes}
    (h : Delivers d e path bytes place) : Keeps d e := by
  refine ⟨h.here, h.refused, fun q kind hq => ?_⟩
  by_cases hplace : q = place
  · subst hplace
    cases kind with
    | file old => exact Or.inr ⟨old, bytes, rfl, Node.kindAt_eq_file_iff.mpr h.content⟩
    | link target => exact absurd hq (h.taken.noLink target)
    | dir => exact absurd hq h.taken.noDir
  · left
    rcases h.elsewhere q hplace with he | ⟨hd, _⟩
    · rw [he, hq]
    · cases hq.symm.trans hd

namespace Command

variable {o : Options} {host : Host} {d e f : Disk} {c : Config.Loaded} {format : Format} {t : Text}
  {dir : Path} {target : Option Path}

theorem prepare_kept (h : prepare d dir = (e, .ok ())) (hkeeps : Disk.Keeps e f) :
    prepare f dir = (f, .ok ()) := by
  unfold prepare at h ⊢
  split at h
  · next hmade =>
    obtain ⟨rfl, -⟩ := Prod.mk.inj h
    rw [Disk.createDirAll_kept hmade hkeeps]
  · cases (Prod.mk.inj h).2

theorem prepare_again {fault : Fault} (h : prepare d dir = (e, .error fault)) :
    ∃ fault', prepare e dir = (e, .error fault') := by
  unfold prepare at h ⊢
  split at h
  · cases (Prod.mk.inj h).2
  · next hfails =>
    obtain ⟨rfl, -⟩ := Prod.mk.inj h
    obtain ⟨cause, hagain⟩ := Disk.createDirAll_again hfails
    rw [hagain]
    exact ⟨_, rfl⟩

theorem destination_kept (h : destination o c format d = (e, .ok target))
    (hkeeps : Disk.Keeps e f) : destination o c format f = (f, .ok target) := by
  have htarget := destination_eq_ok (congrArg Prod.snd h)
  rw [destination_eq] at h ⊢
  split at h
  · rw [htarget]
  · next dir _ =>
    cases hprepare : prepare d dir with
    | mk made result =>
      rw [hprepare] at h
      cases result with
      | error fault => cases (Prod.mk.inj h).2
      | ok _ =>
        obtain rfl := (Prod.mk.inj h).1
        rw [prepare_kept hprepare hkeeps, htarget]
        rfl

theorem destination_again {fault : Fault} (h : destination o c format d = (e, .error fault)) :
    ∃ fault', destination o c format e = (e, .error fault') := by
  rw [destination_eq] at h ⊢
  split at h
  · cases (Prod.mk.inj h).2
  · next dir _ =>
    cases hprepare : prepare d dir with
    | mk made result =>
      rw [hprepare] at h
      cases result with
      | ok _ => cases (Prod.mk.inj h).2
      | error cause =>
        obtain rfl := (Prod.mk.inj h).1
        obtain ⟨fault', hagain⟩ := prepare_again hprepare
        rw [hagain]
        exact ⟨fault', rfl⟩

theorem deliver_again {r : Except Fault Text} (h : deliver o c format t d = (e, r)) :
    ∃ f r', deliver o c format t e = (f, r') ∧ r'.toOption = r.toOption ∧
      ∀ q, f.root.kindAt q = e.root.kindAt q := by
  rw [deliver] at h
  split at h
  · next made fault hdest =>
    obtain ⟨rfl, rfl⟩ := Prod.mk.inj h
    obtain ⟨fault', hagain⟩ := destination_again hdest
    exact ⟨made, .error fault', by rw [deliver, hagain], rfl, fun _ => rfl⟩
  · next made hdest =>
    obtain ⟨rfl, rfl⟩ := Prod.mk.inj h
    have hagain := destination_kept hdest (.refl made)
    exact ⟨made, .ok t, by rw [deliver, hagain], rfl, fun _ => rfl⟩
  · next made path hdest =>
    split at h
    · next written hwrite =>
      obtain ⟨rfl, rfl⟩ := Prod.mk.inj h
      obtain ⟨place, htakes, hputs, -⟩ := Disk.write_eq_ok hwrite
      have hagain := destination_kept hdest (hputs.keeps htakes)
      obtain ⟨f, hf, hsame⟩ := Disk.write_again hwrite
      exact ⟨f, .ok [], by rw [deliver, hagain]; simp only [hf], rfl, hsame⟩
    · next cause hwrite =>
      obtain ⟨rfl, rfl⟩ := Prod.mk.inj h
      have hagain := destination_kept hdest (.refl made)
      exact ⟨made, .error (.cannotWrite path cause), by rw [deliver, hagain]; simp only [hwrite],
        rfl, fun _ => rfl⟩

/-- The run succeeds, and its document is written to the place. -/
def WritesTo (o : Options) (host : Host) (d : Disk) (e : Exit) (place : List Bytes) : Prop :=
  e.code = 0 ∧ ∃ c format t path, Renders o host d c format t ∧ outputPath o c format = some path ∧
    e.disk.locate .follow path = .ok place

/-- With the configuration that holds on the first disk, a scan finds the same on both disks. -/
def SameSources (o : Options) (host : Host) (d e : Disk) : Prop :=
  ∀ c s, (Config.load d o.config (Disk.pathOf d.here)).2 = .ok c → scanOf o c = .ok s →
    (s.run host.pool e).result = (s.run host.pool d).result

/-- Run again on the disk that it leaves, the command ends the same and changes nothing. -/
def Repeats (args : List Bytes) (host : Host) (d : Disk) : Prop :=
  let first := run args host d
  let second := run args host first.disk
  second.code = first.code ∧ second.stdout = first.stdout ∧
    ∀ q, second.disk.root.kindAt q = first.disk.root.kindAt q

variable {args : List Bytes} (host)

theorem run_cases (hargs : Options.parse args = .ok o) :
    Disk.Grows d (run args host d).disk ∨
      (run args host d).code = 0 ∧ ∃ c format t path place, Renders o host d c format t ∧
        outputPath o c format = some path ∧
        Disk.Delivers d (run args host d).disk path (Text.toBytes t) place := by
  rcases refuses_or_renders o host d with ⟨fault, hrefuses⟩ | ⟨c, format, t, hrenders⟩
  · rw [(run_of_refuses host hargs hrefuses).2.2]
    exact Or.inl (.refl d)
  · cases hpath : outputPath o c format with
    | none =>
      rw [(run_of_print host hargs hrenders hpath).2.2]
      exact Or.inl (.refl d)
    | some path =>
      rcases (run_of_write host hargs hrenders hpath).2 with
        ⟨hcode, place, hplace⟩ | ⟨-, hgrows⟩
      · exact Or.inr ⟨hcode, c, format, t, path, place, hrenders, hpath, hplace⟩
      · exact Or.inl hgrows

theorem keeps_run (hargs : Options.parse args = .ok o) :
    Disk.Keeps d (run args host d).disk := by
  rcases run_cases host hargs with hgrows | ⟨-, _, _, _, _, _, -, -, hplace⟩
  · exact hgrows.keeps
  · exact hplace.keeps

theorem WritesTo.delivers (hargs : Options.parse args = .ok o) {place : List Bytes}
    (h : WritesTo o host d (run args host d) place) :
    ∃ c format t path, Renders o host d c format t ∧ outputPath o c format = some path ∧
      Disk.Delivers d (run args host d).disk path (Text.toBytes t) place := by
  obtain ⟨hcode, c, format, t, path, hrenders, hpath, hlocate⟩ := h
  refine ⟨c, format, t, path, hrenders, hpath, ?_⟩
  rcases (run_of_write host hargs hrenders hpath).2 with ⟨-, place', hplace⟩ | ⟨hfails, -⟩
  · obtain rfl : place' = place := Except.ok.inj (hplace.located.symm.trans hlocate)
    exact hplace
  · rw [hcode] at hfails
    cases hfails

theorem kindAt_run (hargs : Options.parse args = .ok o) {place : List Bytes} {kind : Kind}
    (hkind : d.root.kindAt place = some kind)
    (h : ¬ WritesTo o host d (run args host d) place) :
    (run args host d).disk.root.kindAt place = some kind := by
  rcases run_cases host hargs with
    hgrows | ⟨hcode, c, format, t, path, place', hrenders, hpath, hplace⟩
  · exact hgrows.of_some hkind
  · have hne : place ≠ place' := by
      rintro rfl
      exact h ⟨hcode, c, format, t, path, hrenders, hpath, hplace.located⟩
    rcases hplace.elsewhere place hne with hsame | ⟨hnone, -⟩
    · rw [hsame, hkind]
    · cases hkind.symm.trans hnone

theorem outputPath_of_document (houtput : o.output = none) {path : Path} {doc : Document}
    (hdoc : doc.render? format = some t)
    (hfile : Config.fileToRead? d o.config (Disk.pathOf d.here) = some path)
    (hfind : d.find path = .ok (.file (Text.toBytes t)))
    (loaded : (Config.load d o.config (Disk.pathOf d.here)).2 = .ok c) :
    format = .json ∧ outputPath o c format = none := by
  obtain ⟨c', hparse, rfl⟩ := Config.exists_of_load_eq_ok hfile hfind loaded
  rw [Text.ofBytes?_toBytes, Option.bind_some] at hparse
  obtain ⟨hformat, hfolder⟩ := Config.outputFolder_of_render? hdoc hparse
  exact ⟨hformat, by simp [outputPath, houtput, Config.relativeTo, hfolder]⟩

/-- With the same document, a second run has nothing left to do. -/
theorem repeats_of_renders (hargs : Options.parse args = .ok o) (h : Renders o host d c format t)
    (hagain : Renders o host (run args host d).disk c format t) :
    Repeats args host d := by
  obtain ⟨hdisk, hexit⟩ := run_of_renders host hargs h
  obtain ⟨hdisk', hexit'⟩ := run_of_renders host hargs hagain
  obtain ⟨e, r, hdeliver⟩ : ∃ e r, deliver o c format t d = (e, r) := ⟨_, _, rfl⟩
  obtain ⟨f, r', hdeliver', hsame, hkinds⟩ := deliver_again hdeliver
  rw [hdeliver] at hdisk hexit
  rw [hdisk, hdeliver'] at hdisk' hexit'
  rw [Repeats, hdisk, hdisk']
  cases r with
  | ok printed =>
    cases r' with
    | ok printed' =>
      obtain rfl : printed' = printed := Option.some.inj hsame
      exact ⟨hexit'.1.trans hexit.1.symm, hexit'.2.trans hexit.2.symm, hkinds⟩
    | error => cases hsame
  | error =>
    cases r' with
    | ok => cases hsame
    | error => exact ⟨hexit'.1.trans hexit.1.symm, hexit'.2.trans hexit.2.symm, hkinds⟩

section

variable {path : Path} {place : List Bytes} {bytes : ByteArray}
  (hargs : Options.parse args = .ok o) (houtput : o.output = none)
  (hfile : Config.fileToRead? d o.config (Disk.pathOf d.here) = some path)
  (hplace : d.locate .follow path = .ok place)
  (hbytes : d.root.get? place = some (.file bytes))

include hargs houtput hfile hplace hbytes

theorem ne_of_writesTo (h : WritesTo o host d (run args host d) place) :
    (run args host d).disk.root.get? place ≠ some (.file bytes) := by
  intro hkept
  obtain ⟨c, format, t, output, hrenders, hpath, hdelivers⟩ := h.delivers host hargs
  obtain rfl : Text.toBytes t = bytes :=
    Node.file.inj (Option.some.inj (hdelivers.content.symm.trans hkept))
  -- The configuration would be the document, but a document does not ask for an output file.
  have hfind := Disk.find_eq_ok_iff.mpr ⟨place, hplace, hbytes⟩
  obtain ⟨loaded, _, _, _, rendered⟩ := hrenders
  cases (outputPath_of_document houtput rendered hfile hfind loaded).2.symm.trans hpath

theorem get?_run_iff :
    (run args host d).disk.root.get? place = some (.file bytes) ↔
      ¬ WritesTo o host d (run args host d) place := by
  constructor
  · intro hkept h
    exact ne_of_writesTo host hargs houtput hfile hplace hbytes h hkept
  · intro h
    exact Node.kindAt_eq_file_iff.mp
      (kindAt_run host hargs (Node.kindAt_eq_file_iff.mpr hbytes) h)

omit houtput in
theorem repeats_of_not_writesTo (h : ¬ WritesTo o host d (run args host d) place)
    (hsources : SameSources o host d (run args host d).disk) : Repeats args host d := by
  generalize he : (run args host d).disk = e at hsources
  have hkeeps : Disk.Keeps d e := he ▸ keeps_run host hargs
  have hbytes' : e.root.get? place = some (.file bytes) := by
    have hkind := kindAt_run host hargs (Node.kindAt_eq_file_iff.mpr hbytes) h
    exact Node.kindAt_eq_file_iff.mp (he ▸ hkind)
  have hload : Config.load e o.config (Disk.pathOf e.here) =
      Config.load d o.config (Disk.pathOf d.here) := by
    rw [hkeeps.here]
    exact Config.load_again hfile hplace (hkeeps.locate hplace (by simp)) hbytes hbytes'
      hkeeps.refused
  rcases refuses_or_renders o host d with ⟨fault, hrefuses⟩ | ⟨c, format, t, hrenders⟩
  · have hsame := (run_of_refuses host hargs hrefuses).2.2
    rw [Repeats, hsame]
    exact ⟨rfl, rfl, fun _ => by rw [hsame]⟩
  · apply repeats_of_renders host hargs hrenders
    obtain ⟨loaded, known, merged, scanned, rendered⟩ := hrenders
    rw [he]
    exact .intro (hload ▸ loaded) known merged ((hsources _ _ loaded merged).trans scanned) rendered

omit hbytes in
theorem not_repeats_of_writesTo (h : WritesTo o host d (run args host d) place) :
    ¬ Repeats args host d := by
  rw [Repeats]
  have hkeeps : Disk.Keeps d (run args host d).disk := keeps_run host hargs
  obtain ⟨c, format, t, output, hrenders, hpath, hdelivers⟩ := h.delivers host hargs
  have hprints := (run_of_write host hargs hrenders hpath).1
  have hcode := h.1
  generalize (run args host d).disk = e at hkeeps hdelivers ⊢
  obtain ⟨_, known, _, _, rendered⟩ := hrenders
  have hfind : e.find path = .ok (.file _) :=
    Disk.find_eq_ok_iff.mpr ⟨place, hkeeps.locate hplace (by simp), hdelivers.content⟩
  have hfile' : Config.fileToRead? e o.config (Disk.pathOf e.here) = some path := by
    rw [hkeeps.here]
    exact Config.fileToRead?_again hfile hfind
  rintro ⟨hcode', hprints', -⟩
  rw [hcode] at hcode'
  rw [hprints] at hprints'
  rcases refuses_or_renders o host e with ⟨fault, hrefuses⟩ | ⟨c', format', t', hrenders'⟩
  · cases (run_of_refuses host hargs hrefuses).1.symm.trans hcode'
  · -- The document is read as the configuration now, so the second run prints.
    have hrenders := hrenders'
    obtain ⟨loaded, known', _, _, rendered'⟩ := hrenders
    obtain rfl : format' = format := Option.some.inj (known'.symm.trans known)
    obtain ⟨rfl, hnone⟩ := outputPath_of_document houtput rendered hfile' hfind loaded
    have hprinted := (run_of_print host hargs hrenders' hnone).2.1
    exact Document.ne_nil_of_renderJson? rendered' (hprinted.symm.trans hprints')

end

/-- Without an output option, the configuration that a run reads is kept, and a second run on the
same sources ends as the first one, unless the document is written to where the configuration is. In
that case neither holds. -/
theorem config_kept_iff {args : List Bytes} {o : Options} {d : Disk} {path : Path}
    {place : List Bytes} {bytes : ByteArray} (host : Host)
    (hargs : Options.parse args = .ok o) (houtput : o.output = none)
    (hfile : Config.fileToRead? d o.config (Disk.pathOf d.here) = some path)
    (hplace : d.locate .follow path = .ok place)
    (hbytes : d.root.get? place = some (.file bytes)) :
    ((run args host d).disk.root.get? place = some (.file bytes) ↔
        ¬ WritesTo o host d (run args host d) place) ∧
      (SameSources o host d (run args host d).disk →
        (Repeats args host d ↔ ¬ WritesTo o host d (run args host d) place)) := by
  refine ⟨get?_run_iff host hargs houtput hfile hplace hbytes, fun hsources => ⟨?_, ?_⟩⟩
  · intro hrepeats h
    exact not_repeats_of_writesTo host hargs houtput hfile hplace h hrepeats
  · intro h
    exact repeats_of_not_writesTo host hargs hfile hplace hbytes h hsources

/-- The style sheet, and a configuration with the given output folder. -/
def sheets (folder : Text) : Disk where
  root := .dir [
    (Config.defaultName, .file (Text.toBytes
      ("\x7b\"styleFolder\":\"styles\",\"outputFolder\":\"".toList ++ folder ++ "\"\x7d".toList))),
    (stylesName, styles)]

def configPath : Path := Path.slash :: Config.defaultName

theorem fileToRead?_sheets (folder : Text) :
    Config.fileToRead? (sheets folder) none (Disk.pathOf (sheets folder).here) =
      some configPath := by
  cbv

theorem locate_sheets (folder : Text) :
    (sheets folder).locate .follow configPath = .ok [Config.defaultName] := by
  cbv

theorem writesTo_sheets :
    WritesTo {} {} (sheets ['.']) (run [] {} (sheets ['.'])) [Config.defaultName] := by
  let c : Config.Loaded := {
    config := { styleFolder := some "styles".toList, outputFolder := some ['.'] }
    styleFolder := some (Text.bytes "/styles".toList)
    outputFolder := some (Text.bytes "/.".toList) }
  have loaded : (Config.load (sheets ['.']) none (Disk.pathOf (sheets ['.']).here)).2 = .ok c := by
    cbv
  have known : Format.ofName? "json".toList = some .json := rfl
  have scanned : (Scan.run { styleRoot := Text.bytes "/styles".toList } (Host.pool {})
      (sheets ['.'])).result = .ok [sheet] := by cbv
  obtain ⟨t, rendered⟩ := exists_render?_sheet .json
  have hrenders : Renders {} {} (sheets ['.']) c .json t := .intro loaded known rfl scanned rendered
  have hpath : outputPath {} c .json = some (Text.bytes "/./stardoc.json".toList) := rfl
  have hdelivers (t : Text) : (deliver {} c .json t (sheets ['.'])).2 = .ok [] ∧
      (deliver {} c .json t (sheets ['.'])).1.locate .follow (Text.bytes "/./stardoc.json".toList) =
        .ok [Config.defaultName] := ⟨by cbv, by cbv⟩
  have hargs : Options.parse [] = .ok {} := rfl
  obtain ⟨hdisk, hexit⟩ := run_of_renders {} hargs hrenders
  rw [(hdelivers _).1] at hexit
  exact ⟨hexit.1, c, .json, _, _, hrenders, hpath, by rw [hdisk, (hdelivers _).2]⟩

/-- A configuration whose output folder is its own: the document takes its place. -/
theorem config_overwritten :
    Config.fileToRead? (sheets ['.']) none (Disk.pathOf (sheets ['.']).here) =
        some configPath ∧
      (sheets ['.']).locate .follow configPath = .ok [Config.defaultName] ∧
      (run [] {} (sheets ['.'])).code = 0 ∧
      (run [] {} (sheets ['.'])).disk.root.get? [Config.defaultName] ≠
        (sheets ['.']).root.get? [Config.defaultName] ∧
      ¬ Repeats [] {} (sheets ['.']) := by
  have hargs : Options.parse [] = .ok {} := rfl
  have hfile := fileToRead?_sheets ['.']
  have hplace := locate_sheets ['.']
  have hwrites := writesTo_sheets
  refine ⟨hfile, hplace, hwrites.1, ?_, ?_⟩
  · exact ne_of_writesTo {} hargs rfl hfile hplace rfl hwrites
  · exact not_repeats_of_writesTo {} hargs rfl hfile hplace hwrites

theorem config_kept_iff_sheets :
    Options.parse [] = .ok {} ∧
      Config.fileToRead? (sheets "out".toList) none (Disk.pathOf (sheets "out".toList).here) =
        some configPath ∧
      (sheets "out".toList).locate .follow configPath = .ok [Config.defaultName] ∧
      ((run [] {} (sheets "out".toList)).disk.root.get? [Config.defaultName] =
          (sheets "out".toList).root.get? [Config.defaultName] ↔
        ¬ WritesTo {} {} (sheets "out".toList) (run [] {} (sheets "out".toList))
          [Config.defaultName]) ∧
      (SameSources {} {} (sheets "out".toList) (run [] {} (sheets "out".toList)).disk →
        (Repeats [] {} (sheets "out".toList) ↔
          ¬ WritesTo {} {} (sheets "out".toList) (run [] {} (sheets "out".toList))
            [Config.defaultName])) :=
  ⟨rfl, fileToRead?_sheets _, locate_sheets _,
    config_kept_iff {} rfl rfl (fileToRead?_sheets _) (locate_sheets _) rfl⟩

end Command

end StyleGuide
