import StyleGuide.Disk.Trail

/-!
A disk as a value: directories with files and symbolic links in them, and a working directory.
Places on it are lists of names from the root down; paths lead to places.
-/

namespace StyleGuide

structure Disk where
  root : Node
  /-- The place of the working directory. -/
  here : List Bytes := []
  /-- Why what stands at a place cannot be opened for reading, where it cannot. -/
  refused : List Bytes → Option Disk.Trouble := fun _ => none

namespace Disk

/-- The longest path that is looked up, in bytes. -/
def maxPath : Nat := 4095

/-- How many links are followed in one lookup. -/
def maxLinks : Nat := 40

/-- Follows steps from a place of the disk. Where nothing is at the place there is no trail. -/
def travel (d : Disk) (last : Last) (place : List Bytes) (path : List Bytes) :
    Except Trouble (List Bytes) :=
  match (Trail.mk d.root []).extend? place with
  | some t => t.walk d.root last maxLinks path
  | none => follow d.root last maxLinks place path

theorem travel_eq_follow (d : Disk) (last : Last) (place : List Bytes) (path : List Bytes) :
    d.travel last place path = follow d.root last maxLinks place path := by
  rw [travel]
  split
  · rename_i t ht
    obtain ⟨hl, hp⟩ := Trail.leads_of_extend? (Trail.leads_root d.root) ht
    rw [Trail.walk_eq_follow hl, hp]
    rfl
  · rfl

/-- The place that a path leads to. -/
def locate (d : Disk) (last : Last) (path : Path) : Except Trouble (List Bytes) :=
  if path.contains 0 then .error .nulInPath
  else if maxPath < path.length then .error .nameTooLong
  else if path.isEmpty then .error .noEntry
  else d.travel last (if Path.isAbsolute path then [] else d.here) (steps path)

/-- The node that a path leads to, through links. -/
def find (d : Disk) (path : Path) : Except Trouble Node :=
  match d.locate .follow path with
  | .error t => .error t
  | .ok place =>
    match d.root.get? place with
    | some n => .ok n
    | none => .error .noEntry

def isFile (d : Disk) (path : Path) : Bool :=
  match d.find path with
  | .ok (.file _) => true
  | _ => false

def isDir (d : Disk) (path : Path) : Bool :=
  match d.find path with
  | .ok (.dir _) => true
  | _ => false

/-- The node that a path leads to, opened for reading. -/
def opened (d : Disk) (path : Path) : Except Trouble Node :=
  match d.locate .follow path with
  | .error t => .error t
  | .ok place =>
    match d.root.get? place, d.refused place with
    | none, _ => .error .noEntry
    | some _, some t => .error t
    | some n, none => .ok n

/-- The text of a file. -/
def readText (d : Disk) (path : Path) : Except Trouble Text :=
  match d.opened path with
  | .error t => .error t
  | .ok (.file bytes) =>
    match Text.ofBytes? bytes with
    | some t => .ok t
    | none => .error .notText
  | .ok _ => .error .isDirectory

/-- The path of a place. -/
def pathOf (place : List Bytes) : Path := Path.slash :: Text.join [Path.slash] place

/-- The same disk seen from another working directory. -/
def changeDir (d : Disk) (path : Path) : Except Trouble Disk :=
  match d.locate .follow path with
  | .error t => .error t
  | .ok place => .ok { d with here := place }

end Disk

end StyleGuide
