import StyleGuide.Config
import StyleGuide.Disk
import StyleGuide.Report

/-!
Configuration files. The folders that a configuration names are meant as seen from its file.
-/

namespace StyleGuide.Config

/-- Why there is no configuration. -/
inductive Fault where
  | unreadable (path : Path) (cause : Disk.Trouble)
  | invalid (path : Path)
  deriving DecidableEq, Repr

def Fault.message : Fault → Text
  | unreadable path _ => "failed to read config: ".toList ++ Bytes.shown path
  | invalid path => "in ".toList ++ Bytes.shown path

/-- What is wrong with an invalid configuration. -/
def invalidMessage : Text := "invalid stardoc config".toList

def Fault.cause : Fault → Text
  | unreadable _ cause => cause.message
  | invalid _ => invalidMessage

def defaultName : Path := Text.bytes "stardoc.json".toList

/-- A configuration that has been read from a file, with the paths of its folders. -/
structure Loaded where
  config : Config := {}
  styleFolder : Option Path := none
  markupFolder : Option Path := none
  outputFolder : Option Path := none
  deriving DecidableEq, Repr

/-- The configuration with its folders as seen from the directory `base`. -/
def relativeTo (base : Path) (c : Config) : Loaded where
  config := c
  styleFolder := c.styleFolder.map fun t => Path.join base (Text.bytes t)
  markupFolder := c.markupFolder.map fun t => Path.join base (Text.bytes t)
  outputFolder := c.outputFolder.map fun t => Path.join base (Text.bytes t)

/-- The file to read: the one that is asked for, or the one with the usual name if it is there. -/
def fileToRead? (d : Disk) (explicit : Option Path) (dir : Path) : Option Path :=
  match explicit with
  | some path => some path
  | none =>
    let path := Path.join dir defaultName
    if d.isFile path then some path else none

/-- Reads the configuration that holds in the directory `dir`. -/
def load (d : Disk) (explicit : Option Path) (dir : Path) : List Event × Except Fault Loaded :=
  match fileToRead? d explicit dir with
  | none => ([], .ok {})
  | some path =>
    match d.readText path with
    | .error cause => ([], .error (.unreadable path cause))
    | .ok t =>
      match parse? t with
      | none => ([], .error (.invalid path))
      | some c =>
        ([.note (.loadedConfig path)], .ok (c.relativeTo ((Path.parent? path).getD [])))

end StyleGuide.Config
