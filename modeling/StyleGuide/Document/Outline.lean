import StyleGuide.Anchor
import StyleGuide.Document

/-!
Documents as a Markdown outline: an index of links, then a section for each category, record and
node. Descriptions are copied as they are, and markup stands in fences.
-/

namespace StyleGuide

/-- A heading with what stands under it. -/
structure Section where
  level : Nat
  title : Text
  /-- How far in the heading stands in the index, if it stands there. -/
  indexDepth : Option Nat
  content : List Text

namespace Section

/-- The heading's line, with an empty line after it. -/
def headingLine (level : Nat) (title : Text) : Text :=
  List.replicate level '#' ++ ' ' :: title ++ ['\n']

def lines (s : Section) : List Text := headingLine s.level s.title :: s.content

end Section

namespace Outline

def markupLines : Option Text → List Text
  | none => []
  | some markup => ["```html".toList, Text.trimEnd markup, "```".toList, []]

/-- A paragraph with an empty line after it, or nothing for an empty text. -/
def paragraph (t : Text) : List Text := if t.isEmpty then [] else [t, []]

/-- The parameters that the structure of a document already shows. -/
def structural : List Text :=
  ["name", "category", "markup", "id", "title", "modifies", "parent"].map String.toList

def parameterLine : Text × Value → Text
  | (key, .flag) => "* `@".toList ++ key ++ "`".toList
  | (key, .text t) => "* `@".toList ++ key ++ "` ".toList ++ t

/-- The parameters that are left, one a line, with an empty line after them. -/
def parameterLines (ps : Parameters) : List Text :=
  match ps.entries.filter fun e => !structural.contains e.1 with
  | [] => []
  | extra => extra.map parameterLine ++ [[]]

def recordTitle (r : Record) : Text := (r.param? "name").getD "(unnamed)".toList

def recordSection (level : Nat) (indexDepth : Option Nat) (r : Record) : Section where
  level := level
  title := recordTitle r
  indexDepth := indexDepth
  content := paragraph r.description ++ parameterLines r.parameters ++ markupLines r.markup

def entrySections (e : CatalogueEntry) : List Section :=
  recordSection 3 (some 1) e.record :: e.modifiers.map (recordSection 4 none)

def categorySections (category : Text) (entries : List CatalogueEntry) : List Section :=
  ⟨2, category, some 0, []⟩ :: entries.flatMap entrySections

/-- A node's title, or its key if it has none. -/
def nodeTitle (key : Text) (entry : Option TreeEntry) : Text :=
  (entry.bind TreeEntry.title).getD key

def entryLines : Option TreeEntry → List Text
  | none => []
  | some e =>
    ("`".toList ++ e.id ++ "`\n".toList) :: (match e.description with
      | none => []
      | some t => [t, []]) ++ markupLines e.markup

mutual

/-- The sections of a node and of those below it. Headings have at most six levels. -/
def nodeSections (depth : Nat) : Tree → List Section
  | .node key entry children =>
    ⟨min (depth + 2) 6, nodeTitle key entry, some depth, entryLines entry⟩ ::
      forestSections (depth + 1) children

def forestSections (depth : Nat) : List Tree → List Section
  | [] => []
  | t :: ts => nodeSections depth t ++ forestSections depth ts

end

def indexTitle : Text := "Index".toList

/-- The index's lines for sections with the given anchors. -/
def indexLines (sections : List Section) (anchors : List Text) : List Text :=
  (sections.zip anchors).filterMap fun (s, anchor) =>
    s.indexDepth.map fun depth => indexItem s.title anchor depth

/-- All lines of an outline. The index heading takes the first anchor. -/
def outlineLines (sections : List Section) : List Text :=
  let anchors := Anchors.assign (Anchors.next indexTitle {}).2 (sections.map Section.title)
  Section.headingLine 2 indexTitle :: indexLines sections anchors ++
    [] :: sections.flatMap Section.lines

/-- Joins lines and ends the last one, unless it is ended already. -/
def joinEnded (lines : List Text) : Text :=
  let t := Text.joinLines lines
  match t.getLast? with
  | none | some '\n' => t
  | some _ => t ++ ['\n']

/-- The outline of the sections. Without sections there is none. -/
def ofSections (sections : List Section) : Text :=
  if sections.isEmpty then [] else joinEnded (outlineLines sections)

end Outline

namespace Document

def sections : Document → List Section
  | catalogue c => c.entries.flatMap fun e => Outline.categorySections e.1 e.2
  | tree root => Outline.forestSections 0 root.children

def renderMarkdown (d : Document) : Text := Outline.ofSections d.sections

end Document

end StyleGuide
