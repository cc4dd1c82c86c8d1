import StyleGuide.Command.Run

/-!
The command itself. The files that it works on are listed on its standard input, one path a line,
as in `find . -type f | styleguide styles`.
-/

namespace StyleGuide.Command

/-- The disk with one more file on it. -/
def withFile (d : Disk) (path : Path) (bytes : ByteArray) : Disk :=
  let d := (d.createDirAll ((Path.parent? path).getD [])).1
  match d.write path bytes with
  | .ok d => d
  | .error _ => d

/-- The files that a run has made or changed, by their paths. -/
def changes (before after : Disk) : List (Path × ByteArray) :=
  let old := Disk.filesBelow [] before.root
  ((Disk.filesBelow [] after.root).filter fun f => !old.contains f).map fun f =>
    (Disk.pathOf f.1, f.2)

/-- Reads the listed files. Those that cannot be read are passed over. -/
partial def readListed (input : IO.FS.Stream) (d : Disk) : IO Disk := do
  let line ← input.getLine
  if line.isEmpty then return d
  let path := Text.dropStop ['\n'] line.toList
  let d ← try
      let bytes ← IO.FS.readBinFile (String.ofList path)
      pure (withFile d (Text.bytes path) bytes)
    catch _ => pure d
  readListed input d

def writeChange (change : Path × ByteArray) : IO Unit := do
  IO.FS.createDirAll (String.ofList (Bytes.shown ((Path.parent? change.1).getD [])))
  IO.FS.writeBinFile (String.ofList (Bytes.shown change.1)) change.2

def usage : Text := "Usage: styleguide [OPTIONS] [STYLE_ROOT]\n".toList

end StyleGuide.Command

open StyleGuide in
def main (args : List String) : IO UInt32 := do
  let dir := Text.bytes ((← IO.getEnv "PWD").getD "/").toList
  let bare : Disk := { root := .dir [] }
  let empty :=
    { (bare.createDirAll dir).1 with here := (Text.pieces Path.slash dir).filter (!·.isEmpty) }
  let before ← Command.readListed (← IO.getStdin) empty
  let host : Command.Host := {
    logging := (← IO.getEnv "RUST_LOG").map String.toList
    help := fun _ => Command.usage }
  let exit := Command.run (args.map fun arg => Text.bytes arg.toList) host before
  for change in Command.changes before exit.disk do
    Command.writeChange change
  IO.print (String.ofList exit.stdout)
  IO.eprint (String.ofList exit.stderr)
  return exit.code.toUInt32
