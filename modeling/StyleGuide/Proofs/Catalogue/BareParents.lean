import StyleGuide.Proofs.Catalogue.Assembly

namespace StyleGuide

/-- Some parameter that should name a parent is a flag, and none of them names one. -/
def Record.isBare (r : Record) : Bool :=
  (r.hasFlag "modifies" || r.hasFlag "parent") &&
    ((r.text? "modifies").isNone && (r.text? "parent").isNone)

def Warning.isEmptyParent : Warning → Bool
  | emptyParent .. => true
  | _ => false

namespace Catalogue

def topRecords (c : Catalogue) : List Record := c.entries.flatMap fun b => b.2.map (·.record)

def emptyParents (events : List Event) : List Warning :=
  (warnings events).filter Warning.isEmptyParent

def emptyParent (r : Record) : Warning :=
  .emptyParent r.sourcePath r.name
    (if r.hasFlag "modifies" then "modifies" else "parent").toList

theorem isModifier_eq (r : Record) :
    r.isModifier = ((r.text? "modifies").isSome || (r.text? "parent").isSome) := by
  rw [Record.isModifier, Record.parent?, Option.isSome_or]

theorem isModifier_of_isBare {r : Record} (h : r.isBare = true) : r.isModifier = false := by
  rw [isModifier_eq]
  simp only [Record.isBare, Bool.and_eq_true, Option.isNone_iff_eq_none] at h
  simp [h.2.1, h.2.2]

theorem emptyParent?_eq (r : Record) :
    emptyParent? r = if r.isBare then some (emptyParent r) else none := by
  rw [emptyParent?, Record.isBare, emptyParent, isModifier_eq]
  cases r.text? "modifies" <;> cases r.text? "parent" <;>
    cases r.hasFlag "modifies" <;> cases r.hasFlag "parent" <;> rfl

theorem emptyParents_assemble (records : List Record) :
    emptyParents (assemble records).1 = (records.filter Record.isBare).map emptyParent := by
  have hbare : records.filterMap emptyParent? =
      (records.filter Record.isBare).map emptyParent := by
    rw [funext emptyParent?_eq, ← List.filterMap_eq_map, List.filterMap_filter]
    rfl
  have hmissing (ms : List Record) : (ms.map missingParent).filter Warning.isEmptyParent = [] := by
    simp [missingParent, Warning.isEmptyParent]
  rw [emptyParents, warnings_assemble, List.filter_append, hmissing, List.append_nil, hbare,
    List.filter_eq_self]
  intro w hw
  obtain ⟨r, _, rfl⟩ := List.mem_map.mp hw
  rfl

theorem topRecords_map (c : Catalogue) :
    topRecords c = (c.map fun es => es.map (·.record)).entries.flatMap Prod.snd := by
  rw [topRecords, Dict.map, List.flatMap_map]

/-- The modifiers leave the entries in their places. -/
theorem topRecords_assemble (records : List Record) :
    topRecords (assemble records).2 = topRecords (base records) := by
  have hmods : ∀ m ∈ records.filter (·.isModifier), m.isModifier = true := by simp
  rw [topRecords_map, topRecords_map]
  congr 2
  apply Dict.ext_get?
  intro k
  rw [Dict.get?_map, Dict.get?_map, assemble_eq, get?_attachAll _ hmods, Option.map_map]
  congr 1
  funext es
  exact map_record_receive _ [] es

theorem topRecords_base (records : List Record) :
    topRecords (base records) = held (base records) := by
  apply List.flatMap_congr
  rintro ⟨k, es⟩ hes
  have hbucket := Dict.get?_eq_some_iff.mpr hes
  rw [get?_base] at hbucket
  split at hbucket
  · obtain rfl := Option.some.inj hbucket
    simp [heldBy, entriesOf, Function.comp_def, List.flatMap_map]
  · cases hbucket

theorem topRecords_perm (records : List Record) :
    (topRecords (assemble records).2).Perm
      ((records.filter (!·.isModifier)).filter (·.category?.isSome)) := by
  rw [topRecords_assemble, topRecords_base]
  exact (held_map_sortEntries _).trans (held_foldl_add _ ∅)

theorem bareRecords_perm (records : List Record) :
    (records.filter Record.isBare).Perm ((topRecords (assemble records).2).filter Record.isBare ++
      (records.filter Record.isBare).filter (·.category?.isNone)) := by
  have hkept : ((records.filter (!·.isModifier)).filter (·.category?.isSome)).filter
      Record.isBare = (records.filter Record.isBare).filter (·.category?.isSome) := by
    simp only [List.filter_filter]
    apply List.filter_congr
    intro r _
    cases hbare : r.isBare with
    | false => simp
    | true => simp [isModifier_of_isBare hbare]
  have hsplit := List.filter_append_perm (·.category?.isSome) (records.filter Record.isBare)
  simp only [Option.not_isSome] at hsplit
  rw [← hkept] at hsplit
  exact hsplit.symm.trans (((topRecords_perm records).filter _).symm.append_right _)

theorem mem_kept_iff {records : List Record} {r : Record}
    (hr : r ∈ records.filter Record.isBare) :
    r ∈ (topRecords (assemble records).2).filter Record.isBare ↔ r.category?.isSome = true := by
  obtain ⟨hmem, hbare⟩ := List.mem_filter.mp hr
  rw [List.mem_filter, (topRecords_perm records).mem_iff, List.mem_filter, List.mem_filter]
  simp [hmem, hbare, isModifier_of_isBare hbare]

/-- Each record whose parent is a bare flag is reported, and it is kept if it has a category. Those
without one are reported as kept and are lost. -/
theorem bare_kept_iff (records : List Record) :
    let bare := records.filter Record.isBare
    let kept := (topRecords (assemble records).2).filter Record.isBare
    let reported := emptyParents (assemble records).1
    reported = bare.map emptyParent ∧
      bare.Perm (kept ++ bare.filter (·.category?.isNone)) ∧
      (∀ r ∈ bare, r ∈ kept ↔ r.category?.isSome = true) ∧
      (reported.length = kept.length ↔ ∀ r ∈ bare, r.category?.isSome = true) := by
  intro bare kept reported
  have hreported : reported = bare.map emptyParent := emptyParents_assemble records
  have hperm : bare.Perm (kept ++ bare.filter (·.category?.isNone)) := bareRecords_perm records
  refine ⟨hreported, hperm, fun r hr => mem_kept_iff hr, ?_⟩
  have hlength := hperm.length_eq
  rw [List.length_append] at hlength
  rw [hreported, List.length_map, hlength, Nat.add_eq_left, List.length_eq_zero_iff,
    List.filter_eq_nil_iff]
  simp only [Option.isNone_iff_eq_none, ← Option.ne_none_iff_isSome, ne_eq]

def bareRecord (params : List (Text × Value)) : Record where
  parameters := .ofList (("name".toList, .text "b".toList) :: ("modifies".toList, .flag) :: params)
  sourcePath := Text.bytes "a.css".toList

def stray : Record := bareRecord []

def shelved : Record := bareRecord [("category".toList, .text "x".toList)]

theorem bare_kept_iff_shelved :
    (shelved ∈ [stray, shelved].filter Record.isBare ∧
        shelved ∈ (topRecords (assemble [stray, shelved]).2).filter Record.isBare) ∧
      (emptyParents (assemble [stray, shelved]).1).length ≠
        ((topRecords (assemble [stray, shelved]).2).filter Record.isBare).length := by
  obtain ⟨_, _, hmem, hlength⟩ := bare_kept_iff [stray, shelved]
  have hbare : shelved ∈ [stray, shelved].filter Record.isBare := by decide
  refine ⟨⟨hbare, (hmem shelved hbare).mpr (by decide)⟩, fun hsame => ?_⟩
  exact absurd (hlength.mp hsame stray (by decide)) (by decide)

theorem stray_lost :
    (warnings (assemble [stray]).1).map Warning.message =
        ["a.css: 'b' has @modifies without a parent name, kept as a top-level record".toList] ∧
      (assemble [stray]).2 = ∅ ∧
      ¬ ∀ records, (emptyParents (assemble records).1).length =
        ((topRecords (assemble records).2).filter Record.isBare).length := by
  have hlost : (emptyParents (assemble [stray]).1).length ≠
      ((topRecords (assemble [stray]).2).filter Record.isBare).length := by decide
  exact ⟨by decide, by decide, fun h => hlost (h [stray])⟩

end Catalogue

end StyleGuide
