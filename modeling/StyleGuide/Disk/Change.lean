import StyleGuide.Disk

/-!
Changes to a disk: new directories, and files with new contents.
-/

namespace StyleGuide.Disk

/-- Makes one directory, in a directory that is there. -/
def makeDir (d : Disk) (path : Path) : Except Trouble Disk :=
  if path.contains 0 then .error .nulInPath
  else if maxPath < path.length then .error .nameTooLong
  else if path.isEmpty then .error .noEntry
  else
    let names := (Text.pieces Path.slash path).filter (!·.isEmpty)
    match names.getLast? with
    | none => .error .alreadyExists
    | some name =>
      match d.travel .follow (if Path.isAbsolute path then [] else d.here)
          (names.dropLast ++ [[Path.dot]]) with
      | .error t => .error t
      | .ok parent =>
        if name = [Path.dot] ∨ name = [Path.dot, Path.dot] then .error .alreadyExists
        else if maxName < name.length then .error .nameTooLong
        else match d.root.get? (parent ++ [name]) with
          | some _ => .error .alreadyExists
          | none => .ok { d with root := d.root.put (parent ++ [name]) (.dir []) }

/-- Makes a directory unless it is there. -/
def ensureDir (d : Disk) (path : Path) : Disk × Except Trouble Unit :=
  match d.makeDir path with
  | .ok e => (e, .ok ())
  | .error t => if d.isDir path then (d, .ok ()) else (d, .error t)

/-- Makes a directory and those above it, where they are missing; `levels` bounds how many. -/
def makeDirs (d : Disk) (path : Path) : (levels : Nat) → Disk × Except Trouble Unit
  | 0 => (d, .error .noEntry)
  | levels + 1 =>
    if path.isEmpty then (d, .ok ())
    else match d.ensureDir path, Path.parent? path with
      | (_, .error .noEntry), some parent =>
        match d.makeDirs parent levels with
        | (e, .ok ()) => e.ensureDir path
        | (e, .error t) => (e, .error t)
      | (e, r), _ => (e, r)

/-- Makes a directory and all that are missing above it. Those made before a failure stay. -/
def createDirAll (d : Disk) (path : Path) : Disk × Except Trouble Unit :=
  d.makeDirs path (path.length + 1)

/-- Gives a file new contents. The file is made if its directory is there. -/
def write (d : Disk) (path : Path) (bytes : ByteArray) : Except Trouble Disk :=
  match d.locate .create path with
  | .error t => .error t
  | .ok place =>
    match d.root.get? place with
    | some (.dir _) => .error .isDirectory
    | _ => .ok { d with root := d.root.put place (.file bytes) }

/-- Makes a symbolic link. -/
def makeLink (d : Disk) (path target : Path) : Except Trouble Disk :=
  match d.locate .create path with
  | .error t => .error t
  | .ok place =>
    match d.root.get? place with
    | some _ => .error .alreadyExists
    | none => .ok { d with root := d.root.put place (.link target) }

mutual

/-- The regular files below a node with their places, seen from `place`. -/
def filesBelow (place : List Bytes) : Node → List (List Bytes × ByteArray)
  | .file bytes => [(place, bytes)]
  | .link _ => []
  | .dir entries => filesAmong place entries

def filesAmong (place : List Bytes) : List (Bytes × Node) → List (List Bytes × ByteArray)
  | [] => []
  | (name, n) :: rest => filesBelow (place ++ [name]) n ++ filesAmong place rest

end

end StyleGuide.Disk
