import StyleGuide.Config.File
import StyleGuide.Document.Format
import StyleGuide.Proofs.Disk.Lookup
import StyleGuide.Proofs.Document.Lossless
import StyleGuide.Proofs.Text.Utf8
import StyleGuide.Proofs.Text.Lines

namespace StyleGuide

theorem Json.parse?_hash (t : Text) : Json.parse? ('#' :: t) = none := by
  have hatom (s : Text) : atom? ('#' :: s) = none := by
    simp [atom?, isNumber, Text.dropStart, Text.after?, whole?, digits?, Text.isDigit]
  rw [parse?, tokens?]
  simp [hatom, punctuation?, isGap]

theorem Document.parse?_renderMarkdown (d : Document) : Json.parse? d.renderMarkdown = none := by
  rw [renderMarkdown, Outline.ofSections]
  split
  · rw [Json.parse?, Json.tokens?]
    rfl
  · obtain ⟨t, ht⟩ : ∃ t, Text.joinLines (Outline.outlineLines d.sections) = '#' :: t := by
      rw [Outline.outlineLines, List.cons_append, Text.joinLines_cons (by simp)]
      exact ⟨_, rfl⟩
    obtain ⟨t', ht'⟩ : ∃ t', Outline.joinEnded (Outline.outlineLines d.sections) = '#' :: t' := by
      rw [Outline.joinEnded]
      simp only [ht]
      split <;> exact ⟨_, rfl⟩
    rw [ht', Json.parse?_hash]

theorem Document.ne_nil_of_renderJson? {d : Document} {t : Text} (h : d.renderJson? = some t) :
    t ≠ [] := by
  rintro rfl
  have hparse := parse?_renderJson? h
  rw [Json.parse?, Json.tokens?] at hparse
  cases hparse

namespace Config

theorem outputFolder_of_ofMembers? {members : List (Option Json)} {c : Config}
    (h : ofMembers? members = some c) :
    ∃ j, members[2]? = some j ∧ optional textOf? j = some c.outputFolder := by
  unfold ofMembers? at h
  split at h
  · next outputFolder _ _ _ _ _ =>
    simp only [Option.bind_eq_bind, Option.bind_eq_some_iff] at h
    obtain ⟨_, _, _, _, folder, hfolder, _, _, _, _, _, _, _, _, _, _, hc⟩ := h
    obtain rfl := Option.some.inj hc
    exact ⟨outputFolder, rfl, hfolder⟩
  · cases h

/-- A value that is neither a text nor null. -/
def IsNested : Json → Prop
  | .array _ | .object _ => True
  | _ => False

theorem outputFolder_eq_none {members : List (Option Json)} {c : Config}
    (h : ofMembers? members = some c) (hnested : ∀ v, members[2]? = some (some v) → IsNested v) :
    c.outputFolder = none := by
  obtain ⟨j, hj, hfolder⟩ := outputFolder_of_ofMembers? h
  match j with
  | none => simpa [optional] using hfolder.symm
  | some v =>
    have := hnested v hj
    cases v <;> simp_all [IsNested, optional, textOf?]

theorem member?_mem {members : List (Option Text × Json)} {key : Text} {v : Json}
    (h : member? members key = some (some v)) : (some key, v) ∈ members := by
  unfold member? at h
  split at h
  · cases h
  · next m hm =>
    have hmem : m ∈ members.filter fun m => m.1 = some key := by simp [hm]
    obtain ⟨hmem, hkey⟩ := List.mem_filter.mp hmem
    obtain rfl : m.2 = v := by simpa using h
    have hkey : m.1 = some key := by simpa using hkey
    rw [← hkey]
    exact hmem
  · cases h

theorem exists_of_mem_mapM {α β : Type} {f : α → Option β} {xs : List α} {ys : List β}
    (h : xs.mapM f = some ys) {y : β} (hy : y ∈ ys) : ∃ x ∈ xs, f x = some y := by
  induction xs generalizing ys with
  | nil =>
    obtain rfl : ys = [] := by simpa using h.symm
    cases hy
  | cons x xs ih =>
    simp only [List.mapM_cons, Option.bind_eq_bind, Option.bind_eq_some_iff] at h
    obtain ⟨z, hz, zs, hzs, hys⟩ := h
    obtain rfl : z :: zs = ys := by simpa using hys
    rcases List.mem_cons.mp hy with rfl | hy
    · exact ⟨x, List.mem_cons_self, hz⟩
    · obtain ⟨w, hw, hwy⟩ := ih hzs hy
      exact ⟨w, List.mem_cons_of_mem x hw, hwy⟩

theorem isNested_of_mem_toJsonAll (ts : List Tree) : ∀ v ∈ Tree.toJsonAll ts, IsNested v := by
  induction ts with
  | nil => simp [Tree.toJsonAll]
  | cons t ts ih =>
    rw [Tree.toJsonAll, List.forall_mem_cons]
    refine ⟨?_, ih⟩
    cases t
    rw [Tree.toJson]
    trivial

/-- A document is no configuration with an output folder: where the folder would stand is an array
or an object, if anything. -/
theorem outputFolder_of_toJson {d : Document} {c : Config} (h : ofJson? d.toJson = some c) :
    c.outputFolder = none := by
  cases d with
  | catalogue catalogue =>
    rw [Document.toJson, Catalogue.toJson, ofJson?] at h
    split at h
    · obtain ⟨members, hmembers, h⟩ := Option.bind_eq_some_iff.mp h
      refine outputFolder_eq_none h fun v hv => ?_
      obtain ⟨key, _, hkey⟩ := exists_of_mem_mapM hmembers (List.mem_of_getElem? hv)
      obtain ⟨e, _, he⟩ := List.mem_map.mp (member?_mem hkey)
      obtain ⟨_, rfl⟩ := Prod.mk.inj he
      trivial
    · cases h
  | tree root =>
    rw [Document.toJson, ofJson?] at h
    refine outputFolder_eq_none h fun v hv => isNested_of_mem_toJsonAll root.children v ?_
    rw [List.getElem?_map, Option.map_eq_some_iff] at hv
    obtain ⟨w, hw, hwv⟩ := hv
    obtain rfl := Option.some.inj hwv
    exact List.mem_of_getElem? hw

theorem outputFolder_of_render? {d : Document} {format : Format} {t : Text} {c : Config}
    (ht : d.render? format = some t) (h : parse? t = some c) :
    format = .json ∧ c.outputFolder = none := by
  obtain ⟨j, hj, hc⟩ := Option.bind_eq_some_iff.mp h
  cases format with
  | json =>
    obtain rfl := Option.some.inj ((Document.parse?_renderJson? ht).symm.trans hj)
    exact ⟨rfl, outputFolder_of_toJson hc⟩
  | markdown =>
    obtain rfl := Option.some.inj ht
    cases (Document.parse?_renderMarkdown d).symm.trans hj

variable {d e : Disk} {explicit : Option Path} {dir path : Path} {place : List Bytes}
  {bytes : ByteArray}

theorem fileToRead?_again (h : fileToRead? d explicit dir = some path)
    (hfind : e.find path = .ok (.file bytes)) : fileToRead? e explicit dir = some path := by
  cases explicit with
  | some given => exact h
  | none =>
    unfold fileToRead? at h ⊢
    simp only at h ⊢
    split at h
    · obtain rfl := Option.some.inj h
      rw [if_pos (by rw [Disk.isFile, hfind])]
    · cases h

theorem exists_of_load_eq_ok (h : fileToRead? d explicit dir = some path)
    (hfind : d.find path = .ok (.file bytes)) {c : Loaded}
    (hload : (load d explicit dir).2 = .ok c) :
    ∃ c', (Text.ofBytes? bytes).bind parse? = some c' ∧
      c = c'.relativeTo ((Path.parent? path).getD []) := by
  simp only [load, h, Disk.readText] at hload
  cases hopened : d.opened path with
  | error t => simp [hopened] at hload
  | ok n =>
    rw [Disk.find_of_opened hopened] at hfind
    obtain rfl := Except.ok.inj hfind
    rw [hopened] at hload
    cases htext : Text.ofBytes? bytes with
    | none => simp [htext] at hload
    | some t =>
      rw [Option.bind_some]
      cases hparse : parse? t with
      | none => simp [htext, hparse] at hload
      | some c' =>
        simp only [htext, hparse] at hload
        exact ⟨c', rfl, (Except.ok.inj hload).symm⟩

theorem load_again (h : fileToRead? d explicit dir = some path)
    (hplace : d.locate .follow path = .ok place) (hplace' : e.locate .follow path = .ok place)
    (hbytes : d.root.get? place = some (.file bytes))
    (hbytes' : e.root.get? place = some (.file bytes)) (hrefused : e.refused = d.refused) :
    load e explicit dir = load d explicit dir := by
  have hfind' := Disk.find_eq_ok_iff.mpr ⟨place, hplace', hbytes'⟩
  rw [load, load, fileToRead?_again h hfind', h]
  simp only [Disk.readText, Disk.opened, hplace, hplace', hbytes, hbytes', hrefused]

end Config

end StyleGuide
