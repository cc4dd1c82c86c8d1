import StyleGuide.Document
import StyleGuide.Json.Printer

/-!
Documents as JSON. A catalogue is an object keyed by category, a tree is the array of the nodes
below its root. JSON holds texts, so a path that spells none cannot be written.
-/

namespace StyleGuide

def Value.toJson : Value → Json
  | flag => .bool true
  | text t => .text t

def Parameters.toJson (ps : Parameters) : Json :=
  .object (ps.entries.map fun e => (some e.1, e.2.toJson))

namespace Record

def members (r : Record) : List (String × Json) :=
  [("description", .text r.description), ("parameters", Parameters.toJson r.parameters),
    ("markup", .textOrNull r.markup), ("sourcePath", .text (Bytes.shown r.sourcePath))]

def toJson (r : Record) : Json := .record r.members

end Record

namespace CatalogueEntry

def toJson (e : CatalogueEntry) : Json :=
  .record (e.record.members ++ [("modifiers", .array (e.modifiers.map Record.toJson))])

/-- The files that an entry comes from. -/
def paths (e : CatalogueEntry) : List Path :=
  e.record.sourcePath :: e.modifiers.map Record.sourcePath

end CatalogueEntry

def Catalogue.toJson (c : Catalogue) : Json :=
  .object (c.entries.map fun e => (some e.1, .array (e.2.map CatalogueEntry.toJson)))

namespace Tree

mutual

def toJson : Tree → Json
  | node key entry children =>
    .record [("key", .text key), ("id", .textOrNull (entry.map TreeEntry.id)),
      ("title", .textOrNull (entry.bind TreeEntry.title)),
      ("description", .textOrNull (entry.bind TreeEntry.description)),
      ("markup", .textOrNull (entry.bind TreeEntry.markup)),
      ("children", .array (toJsonAll children))]

def toJsonAll : List Tree → List Json
  | [] => []
  | t :: ts => toJson t :: toJsonAll ts

end

end Tree

namespace Document

def toJson : Document → Json
  | catalogue c => c.toJson
  | tree root => .array (Tree.toJsonAll root.children)

/-- The files that are named in a document. -/
def paths : Document → List Path
  | catalogue c => c.entries.flatMap fun e => e.2.flatMap CatalogueEntry.paths
  | tree _ => []

def renderJson? (d : Document) : Option Text :=
  if d.paths.all fun p => (Bytes.text? p).isSome then some d.toJson.render else none

end Document

end StyleGuide
