import StyleGuide.Disk
import StyleGuide.Filter
import StyleGuide.Report

/-!
Finding the style files below a root. Directories are listed in the order of their entries' names,
each with all that is below it before the next entry; links are not followed.
-/

namespace StyleGuide.Discovery

/-- A file with its path, and the path as seen from the root. -/
structure Found where
  path : Path
  relative : Path
  deriving DecidableEq, Repr

inductive Sighting where
  | file (f : Found)
  /-- A directory that cannot be listed. -/
  | trouble (path : Path) (t : Disk.Trouble)
  deriving DecidableEq, Repr

section

variable (refused : List Bytes → Option Disk.Trouble)

/-- Why a directory cannot be listed: its path is too long, or it cannot be opened. -/
def refusal? (place : List Bytes) (path : Path) : Option Disk.Trouble :=
  if Disk.maxPath < path.length then some .nameTooLong else refused place

mutual

/-- What is seen at a node and below it. -/
def sightings (place : List Bytes) (spot : Found) : Node → List Sighting
  | .file _ => [.file spot]
  | .link _ => []
  | .dir entries =>
    match refusal? refused place spot.path with
    | some t => [.trouble spot.path t]
    | none =>
      ((sightingsAmong place spot entries).mergeSort fun a b => decide (a.1 ≤ b.1)).flatMap Prod.snd

/-- What is seen at each entry of a directory and below it. -/
def sightingsAmong (place : List Bytes) (spot : Found) :
    List (Bytes × Node) → List (Bytes × List Sighting)
  | [] => []
  | (name, n) :: rest =>
    (name, sightings (place ++ [name])
      ⟨Path.join spot.path name, Path.join spot.relative name⟩ n) :: sightingsAmong place spot rest

end

end

/-- The root's place and node. It has to be a directory. -/
def checkRoot (d : Disk) (root : Path) : Except Failure (List Bytes × Node) :=
  match d.locate .follow root with
  | .error .noEntry => .error (.notFound root)
  | .error t => .error (.unreadable root t)
  | .ok place =>
    match d.root.get? place with
    | none => .error (.notFound root)
    | some (.dir entries) => .ok (place, .dir entries)
    | some _ => .error (.notADirectory root)

def warning? : Sighting → Option Event
  | .file _ => none
  | .trouble path t => some (.warning (.unlisted
      ("IO error for operation on ".toList ++ Bytes.shown path ++ ": ".toList ++ t.message)))

def accepted? (filter : Filter) : Sighting → Option Found
  | .file f => if filter.accepts f.path then some f else none
  | .trouble _ _ => none

/-- The style files below a root, in the order in which they are found. -/
def styleFiles (d : Disk) (filter : Filter) (root : Path) : Outcome (List Found) :=
  match checkRoot d root with
  | .error failure => .fail failure
  | .ok (place, n) =>
    let seen := sightings d.refused place ⟨root, []⟩ n
    ⟨seen.filterMap warning?, .ok (seen.filterMap (accepted? filter))⟩

end StyleGuide.Discovery
