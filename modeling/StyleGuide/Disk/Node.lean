import StyleGuide.Path

/-!
What a disk is made of: files, symbolic links, and directories of named nodes. Places below a node
are lists of names from it down.
-/

namespace StyleGuide

inductive Node where
  | file (bytes : ByteArray)
  | link (target : Path)
  | dir (entries : List (Bytes × Node))

namespace Node

/-- The node at a place below this one. -/
def get? : (place : List Bytes) → Node → Option Node
  | [], n => some n
  | name :: place, dir entries => (entries.lookup name).bind (get? place)
  | _ :: _, _ => none

/-- Changes the entry of a name, or adds it. -/
def alterEntry (name : Bytes) (f : Option Node → Node) :
    List (Bytes × Node) → List (Bytes × Node)
  | [] => [(name, f none)]
  | e :: es => if e.1 = name then (name, f (some e.2)) :: es else e :: alterEntry name f es

/-- Puts a node at a place below this one, if there is a directory for it. -/
def put : Node → (place : List Bytes) → (new : Node) → Node
  | _, [], new => new
  | dir entries, name :: place, new =>
    dir (alterEntry name (fun old => put (old.getD (dir [])) place new) entries)
  | n, _ :: _, _ => n

end Node

end StyleGuide
