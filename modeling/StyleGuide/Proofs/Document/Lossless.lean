import StyleGuide.Document.Format
import StyleGuide.Proofs.Catalogue.Assembly
import StyleGuide.Proofs.Json.Reading
import StyleGuide.Proofs.Text.Utf8

namespace StyleGuide

def Json.textOrNull? : Json → Option (Option Text)
  | null => some none
  | string (some t) => some (some t)
  | _ => none

def Value.ofJson? : Json → Option Value
  | .bool true => some flag
  | .string (some t) => some (text t)
  | _ => none

/-- Members in ascending order of their keys, with values that can be read. -/
def Dict.ofMembers? {α : Type} (read : Json → Option α) (ms : List (Option Text × Json)) :
    Option (Dict α) :=
  match ms.mapM fun m => m.1.bind fun key => (read m.2).map fun v => (key, v) with
  | none => none
  | some es => if h : es.Pairwise fun a b => Text.precedes a.1 b.1 then some ⟨es, h⟩ else none

def Json.names (names : List String) : List (Option Text) := names.map fun name => some name.toList

def Record.ofMembers? : List (Option Text × Json) → Option Record
  | [(k₁, .string (some description)), (k₂, .object parameters), (k₃, markup),
      (k₄, .string (some sourcePath))] =>
    if [k₁, k₂, k₃, k₄] = Json.names ["description", "parameters", "markup", "sourcePath"] then
      (Dict.ofMembers? Value.ofJson? parameters).bind fun parameters =>
        markup.textOrNull?.map fun markup =>
          ⟨description, parameters, markup, Text.bytes sourcePath⟩
    else none
  | _ => none

def Record.ofJson? : Json → Option Record
  | .object ms => ofMembers? ms
  | _ => none

def CatalogueEntry.ofJson? : Json → Option CatalogueEntry
  | .object [m₁, m₂, m₃, m₄, (k, .array modifiers)] =>
    if [k] = Json.names ["modifiers"] then
      (Record.ofMembers? [m₁, m₂, m₃, m₄]).bind fun record =>
        (modifiers.mapM Record.ofJson?).map fun modifiers => ⟨record, modifiers⟩
    else none
  | _ => none

def Catalogue.entriesOfJson? : Json → Option (List CatalogueEntry)
  | .array js => js.mapM CatalogueEntry.ofJson?
  | _ => none

def Catalogue.ofJson? : Json → Option Catalogue
  | .object ms => Dict.ofMembers? entriesOfJson? ms
  | _ => none

/-- A node without an entry has nothing in any of the four places. -/
def TreeEntry.ofTexts? : (id title description markup : Option Text) → Option (Option TreeEntry)
  | some id, title, description, markup => some (some ⟨id, title, description, markup⟩)
  | none, none, none, none => some none
  | none, _, _, _ => none

namespace Tree

mutual

def ofJson? : Json → Option Tree
  | .object [(k₁, .string (some key)), (k₂, id), (k₃, title), (k₄, description), (k₅, markup),
      (k₆, .array children)] =>
    if [k₁, k₂, k₃, k₄, k₅, k₆] =
        Json.names ["key", "id", "title", "description", "markup", "children"] then
      id.textOrNull?.bind fun id => title.textOrNull?.bind fun title =>
        description.textOrNull?.bind fun description => markup.textOrNull?.bind fun markup =>
          (TreeEntry.ofTexts? id title description markup).bind fun entry =>
            (ofJsonAll? children).map fun children => node key entry children
    else none
  | _ => none

def ofJsonAll? : List Json → Option (List Tree)
  | [] => some []
  | j :: js => (ofJson? j).bind fun t => (ofJsonAll? js).map fun ts => t :: ts

end

def forestOfJson? : Json → Option (List Tree)
  | .array js => ofJsonAll? js
  | _ => none

end Tree

theorem Json.textOrNull?_textOrNull (t : Option Text) : (textOrNull t).textOrNull? = some t := by
  cases t <;> rfl

theorem Value.ofJson?_toJson (v : Value) : ofJson? v.toJson = some v := by
  cases v <;> rfl

theorem mapM_map_of_inverse {α β : Type} {f : β → Option α} {g : α → β} {xs : List α}
    (h : ∀ x ∈ xs, f (g x) = some x) : (xs.map g).mapM f = some xs := by
  induction xs with
  | nil => rfl
  | cons x xs ih =>
    obtain ⟨hx, hxs⟩ := List.forall_mem_cons.mp h
    rw [List.map_cons, List.mapM_cons, hx, ih hxs]
    rfl

theorem Dict.ofMembers?_entries {α : Type} {read : Json → Option α} {write : α → Json}
    {d : Dict α} (h : ∀ v, (∃ key, (key, v) ∈ d.entries) → read (write v) = some v) :
    ofMembers? read (d.entries.map fun e => (some e.1, write e.2)) = some d := by
  have hmember : ∀ e ∈ d.entries, ((some e.1, write e.2) : Option Text × Json).1.bind
      (fun key => (read (write e.2)).map fun v => (key, v)) = some e := by
    intro e he
    rw [h e.2 ⟨e.1, he⟩]
    rfl
  rw [ofMembers?, mapM_map_of_inverse hmember]
  exact dif_pos d.ascending

theorem Record.ofMembers?_members {r : Record} (h : ∃ t, r.sourcePath = Text.bytes t) :
    ofMembers? (r.members.map fun m => (some m.1.toList, m.2)) = some r := by
  have hparameters := Dict.ofMembers?_entries (d := r.parameters) fun v _ => v.ofJson?_toJson
  calc ofMembers? (r.members.map fun m => (some m.1.toList, m.2))
      = (Dict.ofMembers? Value.ofJson?
          (r.parameters.entries.map fun e => (some e.1, e.2.toJson))).bind fun parameters =>
        (Json.textOrNull r.markup).textOrNull?.map fun markup =>
          ⟨r.description, parameters, markup, Text.bytes (Bytes.shown r.sourcePath)⟩ := if_pos rfl
    _ = some r := by
      rw [hparameters, Json.textOrNull?_textOrNull, Bytes.bytes_shown h]
      rfl

theorem Record.ofJson?_toJson {r : Record} (h : ∃ t, r.sourcePath = Text.bytes t) :
    ofJson? r.toJson = some r := ofMembers?_members h

theorem CatalogueEntry.ofJson?_toJson {e : CatalogueEntry}
    (h : ∀ p ∈ e.paths, ∃ t, p = Text.bytes t) : ofJson? e.toJson = some e := by
  rw [paths, List.forall_mem_cons, List.forall_mem_map] at h
  calc ofJson? e.toJson
      = (Record.ofMembers? (e.record.members.map fun m => (some m.1.toList, m.2))).bind
          fun record => ((e.modifiers.map Record.toJson).mapM Record.ofJson?).map
            fun modifiers => ⟨record, modifiers⟩ := if_pos rfl
    _ = some e := by
      rw [Record.ofMembers?_members h.1,
        mapM_map_of_inverse fun m hm => Record.ofJson?_toJson (h.2 m hm)]
      rfl

theorem Catalogue.ofJson?_toJson {c : Catalogue}
    (h : ∀ p ∈ (Document.catalogue c).paths, ∃ t, p = Text.bytes t) :
    ofJson? c.toJson = some c := by
  have hentries : ∀ es, (∃ category, (category, es) ∈ c.entries) →
      entriesOfJson? (.array (es.map CatalogueEntry.toJson)) = some es := by
    rintro es ⟨category, hes⟩
    refine mapM_map_of_inverse fun e he => CatalogueEntry.ofJson?_toJson fun p hp => h p ?_
    exact List.mem_flatMap.mpr ⟨_, hes, List.mem_flatMap.mpr ⟨e, he, hp⟩⟩
  exact Dict.ofMembers?_entries hentries

theorem TreeEntry.ofTexts?_entry (entry : Option TreeEntry) :
    ofTexts? (entry.map TreeEntry.id) (entry.bind TreeEntry.title)
      (entry.bind TreeEntry.description) (entry.bind TreeEntry.markup) = some entry := by
  cases entry <;> rfl

namespace Tree

mutual

theorem ofJson?_toJson (t : Tree) : ofJson? t.toJson = some t := by
  match t with
  | node key entry children =>
    calc ofJson? (toJson (node key entry children))
        = (Json.textOrNull (entry.map TreeEntry.id)).textOrNull?.bind fun id =>
          (Json.textOrNull (entry.bind TreeEntry.title)).textOrNull?.bind fun title =>
          (Json.textOrNull (entry.bind TreeEntry.description)).textOrNull?.bind fun description =>
          (Json.textOrNull (entry.bind TreeEntry.markup)).textOrNull?.bind fun markup =>
          (TreeEntry.ofTexts? id title description markup).bind fun entry =>
            (ofJsonAll? (toJsonAll children)).map fun children => node key entry children :=
          if_pos rfl
      _ = some (node key entry children) := by
        rw [ofJsonAll?_toJsonAll children]
        simp only [Json.textOrNull?_textOrNull, Option.bind_some, TreeEntry.ofTexts?_entry]
        rfl

theorem ofJsonAll?_toJsonAll (ts : List Tree) : ofJsonAll? (toJsonAll ts) = some ts := by
  match ts with
  | [] => rfl
  | t :: ts =>
    rw [toJsonAll, ofJsonAll?, ofJson?_toJson t, ofJsonAll?_toJsonAll ts]
    rfl

end

end Tree

theorem Json.proper_textOrNull (t : Option Text) : (textOrNull t).Proper := by
  cases t with
  | none => exact .null
  | some t => exact .string _

theorem Json.proper_record {members : List (String × Json)} (h : ∀ m ∈ members, m.2.Proper) :
    (record members).Proper := by
  apply Json.Proper.object
  rw [List.forall_mem_map]
  exact h

theorem Value.proper_toJson (v : Value) : v.toJson.Proper := by
  cases v with
  | flag => exact .bool true
  | text t => exact .string _

theorem Record.proper_members (r : Record) : ∀ m ∈ r.members, m.2.Proper := by
  have hparameters : (Parameters.toJson r.parameters).Proper := by
    apply Json.Proper.object
    rw [List.forall_mem_map]
    exact fun e _ => e.2.proper_toJson
  simp only [members, List.forall_mem_cons]
  exact ⟨.string _, hparameters, Json.proper_textOrNull _, .string _, by simp⟩

theorem CatalogueEntry.proper_toJson (e : CatalogueEntry) : e.toJson.Proper := by
  apply Json.proper_record
  have hmodifiers : (Json.array (e.modifiers.map Record.toJson)).Proper := by
    apply Json.Proper.array
    rw [List.forall_mem_map]
    exact fun r _ => Json.proper_record r.proper_members
  rw [List.forall_mem_append, List.forall_mem_singleton]
  exact ⟨e.record.proper_members, hmodifiers⟩

theorem Catalogue.proper_toJson (c : Catalogue) : c.toJson.Proper := by
  apply Json.Proper.object
  rw [List.forall_mem_map]
  intro bucket _
  apply Json.Proper.array
  rw [List.forall_mem_map]
  exact fun e _ => e.proper_toJson

namespace Tree

mutual

theorem proper_toJson (t : Tree) : t.toJson.Proper := by
  match t with
  | node key entry children =>
    apply Json.proper_record
    simp only [List.forall_mem_cons]
    exact ⟨.string _, Json.proper_textOrNull _, Json.proper_textOrNull _, Json.proper_textOrNull _,
      Json.proper_textOrNull _, .array (proper_toJsonAll children), by simp⟩

theorem proper_toJsonAll (ts : List Tree) : ∀ j ∈ toJsonAll ts, j.Proper := by
  match ts with
  | [] => simp [toJsonAll]
  | t :: ts =>
    rw [toJsonAll, List.forall_mem_cons]
    exact ⟨proper_toJson t, proper_toJsonAll ts⟩

end

end Tree

namespace Document

theorem proper_toJson (d : Document) : d.toJson.Proper := by
  cases d with
  | catalogue c => exact c.proper_toJson
  | tree root => exact .array (Tree.proper_toJsonAll root.children)

theorem renderJson?_eq_some_iff {d : Document} {t : Text} :
    d.renderJson? = some t ↔ (∀ p ∈ d.paths, ∃ u, p = Text.bytes u) ∧ d.toJson.render = t := by
  have hspelled : (d.paths.all fun p => (Bytes.text? p).isSome) = true ↔
      ∀ p ∈ d.paths, ∃ u, p = Text.bytes u := by
    simp only [List.all_eq_true, Option.isSome_iff_exists, Bytes.text?_eq_some_iff]
  rw [renderJson?, Option.ite_none_right_eq_some, hspelled, Option.some.injEq]

theorem parse?_renderJson? {d : Document} {t : Text} (h : d.renderJson? = some t) :
    Json.parse? t = some d.toJson := by
  obtain ⟨_, rfl⟩ := renderJson?_eq_some_iff.mp h
  have hnewline : Json.Gap ['\n'] := by simp [Json.Gap]
  have htext := Json.Spells.text Json.gap_nil (d.proper_toJson.spells_print 0) hnewline
  rw [Json.render_eq_print]
  exact htext.parse?

/-- The value holds all of the document but for the root of a tree. -/
def ToldBy : Document → Json → Prop
  | catalogue c, j => Catalogue.ofJson? j = some c
  | tree root, j => Tree.forestOfJson? j = some root.children

theorem toldBy_toJson {d : Document} (h : ∀ p ∈ d.paths, ∃ t, p = Text.bytes t) :
    d.ToldBy d.toJson := by
  cases d with
  | catalogue c => exact Catalogue.ofJson?_toJson h
  | tree root => exact Tree.ofJsonAll?_toJsonAll root.children

theorem toldBy_of_renderJson? {d e : Document} {t : Text} (hd : d.renderJson? = some t)
    (he : e.renderJson? = some t) : d.ToldBy e.toJson := by
  have hsame : d.toJson = e.toJson :=
    Option.some.inj ((parse?_renderJson? hd).symm.trans (parse?_renderJson? he))
  rw [← hsame]
  exact toldBy_toJson (renderJson?_eq_some_iff.mp hd).1

theorem renderJson?_tree (root : Tree) :
    (tree root).renderJson? = some (Json.array (Tree.toJsonAll root.children)).render :=
  renderJson?_eq_some_iff.mpr ⟨by simp [paths], rfl⟩

theorem paths_catalogue (c : Catalogue) :
    (catalogue c).paths = c.held.map Record.sourcePath := by
  simp only [paths, Catalogue.held, Catalogue.heldBy, List.map_flatMap, List.map_cons]
  rfl

theorem exists_of_mem_paths {layout : Layout} {records : List Record} {p : Path}
    (h : p ∈ (assemble layout records).2.paths) : ∃ r ∈ records, r.sourcePath = p := by
  cases layout with
  | tree => cases h
  | category =>
    have hpaths : (assemble .category records).2.paths =
        (Catalogue.assemble records).2.held.map Record.sourcePath := paths_catalogue _
    obtain ⟨r, hr, rfl⟩ := List.mem_map.mp (hpaths ▸ h)
    refine ⟨r, (Catalogue.conserved_assemble records).mem_iff.mpr ?_, rfl⟩
    exact List.mem_append_left _ (List.mem_append_left _ hr)

/-- Only a file whose path spells no text keeps a document from being written. -/
theorem exists_render? (layout : Layout) (format : Format) {records : List Record}
    (h : ∀ r ∈ records, ∃ u, r.sourcePath = Text.bytes u) :
    ∃ t, (assemble layout records).2.render? format = some t := by
  cases format with
  | markdown => exact ⟨_, rfl⟩
  | json =>
    refine ⟨_, renderJson?_eq_some_iff.mpr ⟨fun p hp => ?_, rfl⟩⟩
    obtain ⟨r, hr, rfl⟩ := exists_of_mem_paths hp
    exact h r hr

/-- A document whose paths are all texts is written as JSON that tells the whole of it; any other
one cannot be written. -/
theorem renderJson_lossless :
    (∀ d : Document, (∀ p ∈ d.paths, ∃ u, p = Text.bytes u) →
      ∃ t j, d.renderJson? = some (t ++ ['\n']) ∧ Json.Spells (.value j) t ∧
        Json.parse? (t ++ ['\n']) = some j ∧ d.ToldBy j) ∧
    (∀ d : Document, (∃ p ∈ d.paths, ∀ u, p ≠ Text.bytes u) → d.renderJson? = none) ∧
    (∀ (c c' : Catalogue) (t : Text), (catalogue c).renderJson? = some t →
      ((catalogue c').renderJson? = some t ↔ c = c')) ∧
    ∀ root root' : Tree, (tree root).renderJson? = (tree root').renderJson? ↔
      root.children = root'.children := by
  refine ⟨fun d hd => ?_, ?_, ?_, ?_⟩
  · have hrender : d.renderJson? = some (Json.print 0 d.toJson ++ ['\n']) :=
      renderJson?_eq_some_iff.mpr ⟨hd, Json.render_eq_print _⟩
    exact ⟨_, d.toJson, hrender, d.proper_toJson.spells_print 0, parse?_renderJson? hrender,
      toldBy_toJson hd⟩
  · rintro d ⟨p, hp, hspells⟩
    by_contra hsome
    obtain ⟨t, ht⟩ := Option.ne_none_iff_exists'.mp hsome
    obtain ⟨u, hu⟩ := (renderJson?_eq_some_iff.mp ht).1 p hp
    exact hspells u hu
  · intro c c' t hc
    constructor
    · intro hc'
      have htold := toldBy_of_renderJson? hc hc'
      have htold' := toldBy_of_renderJson? hc' hc'
      exact Option.some.inj (htold.symm.trans htold')
    · rintro rfl
      exact hc
  · intro root root'
    rw [renderJson?_tree, renderJson?_tree]
    constructor
    · intro h
      have htold := toldBy_of_renderJson? (renderJson?_tree root) (h ▸ renderJson?_tree root')
      exact Option.some.inj (htold.symm.trans (Tree.ofJsonAll?_toJsonAll root'.children))
    · intro h
      rw [h]

/-- A catalogue with one record, from the file at a path. -/
def forms (path : Path) : Catalogue :=
  .ofList [("forms".toList, [{ record := { sourcePath := path } }])]

theorem paths_forms (path : Path) : (catalogue (forms path)).paths = [path] := rfl

theorem renderJson_lossless_forms :
    let d := catalogue (forms (Text.bytes "a.css".toList))
    (∀ p ∈ d.paths, ∃ u, p = Text.bytes u) ∧
      (∃ t j, d.renderJson? = some (t ++ ['\n']) ∧ Json.Spells (.value j) t ∧
        Json.parse? (t ++ ['\n']) = some j ∧ d.ToldBy j) ∧
      (∃ t, d.renderJson? = some t ∧ ((catalogue (forms [])).renderJson? = some t ↔
        forms (Text.bytes "a.css".toList) = forms [])) ∧
      (catalogue (forms [0xFF])).renderJson? = none := by
  intro d
  obtain ⟨htold, hnone, hsame, -⟩ := renderJson_lossless
  have hpaths : ∀ p ∈ d.paths, ∃ u, p = Text.bytes u := by
    rw [paths_forms, List.forall_mem_singleton]
    exact ⟨_, rfl⟩
  have hbyte : ∀ u, ([0xFF] : Path) ≠ Text.bytes u := by
    intro u hu
    have htext : Bytes.text? [0xFF] = none := by decide
    exact absurd (htext.symm.trans (Bytes.text?_eq_some_iff.mpr hu)) (by simp)
  obtain ⟨t, j, hrender, hrest⟩ := htold d hpaths
  exact ⟨hpaths, ⟨t, j, hrender, hrest⟩, ⟨_, hrender, hsame _ _ _ hrender⟩,
    hnone _ ⟨[0xFF], by rw [paths_forms, List.mem_singleton], hbyte⟩⟩

end Document

end StyleGuide
