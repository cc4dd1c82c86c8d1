import StyleGuide.Disk.Node
import StyleGuide.Disk.Trouble

/-!
Where the steps of a path lead: names go down, two dots go up, and links lead elsewhere.
-/

namespace StyleGuide.Disk

/-- The longest name in a directory, in bytes. -/
def maxName : Nat := 255

/-- The steps that a path takes. A slash at its end asks for a directory, like a dot would. -/
def steps (path : Path) : List Bytes :=
  (Text.pieces Path.slash path).filter (!·.isEmpty) ++
    (if Text.endsWith [Path.slash] path then [[Path.dot]] else [])

/-- What a lookup does with the last step. -/
inductive Last where
  /-- It has to be there; a link is followed. -/
  | follow
  /-- It has to be there; a link is not followed. -/
  | keep
  /-- It may be missing; a link is followed. -/
  | create
  deriving DecidableEq, Repr

/-- Follows steps from a place, with a number of links left to follow. -/
def follow (root : Node) (last : Last) (links : Nat) (place : List Bytes) (path : List Bytes) :
    Except Trouble (List Bytes) :=
  match path with
  | [] => .ok place
  | step :: rest =>
    match root.get? place with
    | none => .error .noEntry
    | some (.dir entries) =>
      if step = [Path.dot] then follow root last links place rest
      else if step = [Path.dot, Path.dot] then follow root last links place.dropLast rest
      else if maxName < step.length then .error .nameTooLong
      else match entries.lookup step with
        | none =>
          if rest.isEmpty ∧ last = .create then .ok (place ++ [step]) else .error .noEntry
        | some (.link target) =>
          if rest.isEmpty ∧ last = .keep then .ok (place ++ [step])
          else match links with
            | 0 => .error .tooManyLinks
            | links + 1 =>
              follow root last links (if Path.isAbsolute target then [] else place)
                (steps target ++ rest)
        | some _ => follow root last links (place ++ [step]) rest
    | some _ => .error .notDirectory
termination_by (links, path.length)

end StyleGuide.Disk
