import StyleGuide.Text.Utf8

/-!
Paths as bytes. A path is read as components between slashes, where empty pieces and single dots
count for nothing, except for a slash or a dot at the very front.
-/

namespace StyleGuide

abbrev Path := Bytes

namespace Path

def slash : UInt8 := 47

def dot : UInt8 := 46

inductive Component where
  /-- The slash in front of an absolute path. -/
  | root
  /-- A dot in front of a relative path. -/
  | here
  | parent
  | name (n : Bytes)
  deriving DecidableEq, Repr

def isAbsolute (p : Path) : Bool := Text.startsWith [slash] p

/-- Whether a piece between slashes names nothing. -/
def isSilent (piece : Bytes) : Bool := piece = [] || piece = [dot]

def component (piece : Bytes) : Component := if piece = [dot, dot] then .parent else .name piece

/-- The part of a path that stays in front of its pieces, and the rest. -/
def splitFront (p : Path) : Path × Path :=
  match p with
  | [] => ([], [])
  | c :: rest =>
    if c = slash then ([slash], rest)
    else if c = dot ∧ (rest = [] ∨ rest.head? = some slash) then ([dot], rest)
    else ([], c :: rest)

/-- The component that the front part stands for. -/
def frontComponent (front : Path) : List Component :=
  if front = [slash] then [.root] else if front = [dot] then [.here] else []

def components (p : Path) : List Component :=
  let (front, rest) := splitFront p
  frontComponent front ++
    ((Text.pieces slash rest).filter fun piece => !isSilent piece).map component

/-- The pieces behind the front part, the last one first and without silent ones before it. -/
def lastPieces (rest : Path) : List Bytes := (Text.pieces slash rest).reverse.dropWhile isSilent

/-- The path without its last component, as it is written. The root and the empty path have none. -/
def parent? (p : Path) : Option Path :=
  let (front, rest) := splitFront p
  match lastPieces rest with
  | _ :: before => some (front ++ Text.join [slash] (before.dropWhile isSilent).reverse)
  | [] => if front = [dot] then some [] else none

/-- The last component, if it is a name. -/
def fileName? (p : Path) : Option Bytes :=
  match lastPieces (splitFront p).2 with
  | piece :: _ => if piece = [dot, dot] then none else some piece
  | [] => none

/-- What follows the last dot of the file name, unless that dot is the first byte. -/
def extension? (p : Path) : Option Bytes :=
  match (fileName? p).map fun name => (Text.pieces dot name).reverse with
  | some (last :: before) => if before = [] ∨ before = [[]] then none else some last
  | _ => none

/-- A path seen from another one. An absolute path stands for itself. -/
def join (base p : Path) : Path :=
  if isAbsolute p then p
  else match base.getLast? with
    | none => p
    | some c => if c = slash then base ++ p else base ++ slash :: p

/-- A component as it is written. -/
def Component.write : Component → Bytes
  | root => [slash]
  | here => [dot]
  | parent => [dot, dot]
  | name n => n

/-- The path with the given components. -/
def ofComponents (cs : List Component) : Path := cs.foldl (fun p c => join p c.write) []

end Path

end StyleGuide
