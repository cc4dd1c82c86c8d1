import StyleGuide.Catalogue
import StyleGuide.Proofs.Dict
import StyleGuide.Proofs.Report

namespace StyleGuide.Catalogue

def topLevel (category : Text) (r : Record) : Bool :=
  !r.isModifier && r.category? = some category

def modifies (category parent : Text) (m : Record) : Bool :=
  m.parent? = some parent && m.category?.getD [] = category

def hasParent (c : Catalogue) (m : Record) : Bool :=
  ((c.get? (m.category?.getD [])).getD []).any fun e => m.parent? = some e.name

def ranked (records : List Record) (category : Text) : List Record :=
  (records.filter (topLevel category)).mergeSort fun a b => Text.atMost a.name b.name

def entriesOf (rs : List Record) : List CatalogueEntry := rs.map fun r => ⟨r, []⟩

theorem get?_add (c : Catalogue) (r : Record) (k : Text) :
    (c.add r).get? k =
      if r.category? = some k then some ((c.get? k).getD [] ++ [⟨r, []⟩]) else c.get? k := by
  unfold add
  cases hr : r.category? with
  | none => simp
  | some category =>
    by_cases hk : k = category
    · simp [hk]
    · simp [hk, Ne.symm hk]

theorem get?_foldl_add (rs : List Record) (c : Catalogue) (k : Text) :
    (rs.foldl add c).get? k =
      if rs.any (·.category? = some k)
      then some ((c.get? k).getD [] ++ entriesOf (rs.filter (·.category? = some k)))
      else c.get? k := by
  induction rs generalizing c with
  | nil => simp
  | cons r rs ih =>
    rw [List.foldl_cons, ih, get?_add]
    by_cases hr : r.category? = some k
    · by_cases hrs : rs.any (·.category? = some k) = true
      · simp [hr, hrs, entriesOf]
      · have hnil : rs.filter (·.category? = some k) = [] := by simpa using hrs
        simp [hr, hrs, hnil, entriesOf]
    · simp [hr]

/-- Gives the first entry of each name, but for the names already seen, the modifiers due to it. -/
def receive (due : Text → List Record) (seen : List Text) :
    List CatalogueEntry → List CatalogueEntry
  | [] => []
  | e :: es =>
    { e with modifiers := e.modifiers ++ if seen.contains e.name then [] else due e.name } ::
      receive due (e.name :: seen) es

theorem map_record_receive (due : Text → List Record) (seen : List Text)
    (es : List CatalogueEntry) : (receive due seen es).map (·.record) = es.map (·.record) := by
  induction es generalizing seen with
  | nil => rfl
  | cons e es ih => rw [receive, List.map_cons, ih, List.map_cons]

theorem any_receive (due : Text → List Record) (seen : List Text) (es : List CatalogueEntry)
    (p : Text → Bool) :
    ((receive due seen es).any fun e => p e.name) = es.any fun e => p e.name := by
  have h := congrArg (List.any · fun r => p r.name) (map_record_receive due seen es)
  simp only [List.any_map] at h
  exact h

theorem receive_congr {due due' : Text → List Record} {seen : List Text}
    {es : List CatalogueEntry} (h : ∀ e ∈ es, e.name ∉ seen → due e.name = due' e.name) :
    receive due seen es = receive due' seen es := by
  induction es generalizing seen with
  | nil => rfl
  | cons e es ih =>
    have hes : receive due (e.name :: seen) es = receive due' (e.name :: seen) es := by
      apply ih
      intro d hd hn
      exact h d (List.mem_cons_of_mem _ hd) (fun hs => hn (List.mem_cons_of_mem _ hs))
    rw [receive, receive, hes]
    by_cases hs : e.name ∈ seen
    · simp [hs]
    · simp [hs, h e List.mem_cons_self hs]

theorem receive_nothing (seen : List Text) (es : List CatalogueEntry) :
    receive (fun _ => []) seen es = es := by
  induction es generalizing seen with
  | nil => rfl
  | cons e es ih => simp [receive, ih]

theorem map_receive_nothing (bucket : Option (List CatalogueEntry)) :
    bucket.map (receive (fun _ => []) []) = bucket := by
  rw [funext (receive_nothing []), Option.map_id']

theorem receive_receive (due more : Text → List Record) (seen : List Text)
    (es : List CatalogueEntry) :
    receive more seen (receive due seen es) = receive (fun n => due n ++ more n) seen es := by
  induction es generalizing seen with
  | nil => rfl
  | cons e es ih =>
    rw [receive, receive, receive]
    have hname (ms : List Record) : CatalogueEntry.name { e with modifiers := ms } = e.name := rfl
    rw [hname (e.modifiers ++ _), ih]
    by_cases hs : e.name ∈ seen <;> simp [hs]

theorem receive_eq_append {due : Text → List Record} {seen : List Text} {rs : List Record}
    {before after : List CatalogueEntry} {e : CatalogueEntry}
    (h : receive due seen (entriesOf rs) = before ++ e :: after) :
    e.modifiers = if e.name ∈ seen ++ before.map (·.name) then [] else due e.name := by
  induction rs generalizing seen before with
  | nil => simp [entriesOf, receive] at h
  | cons r rs ih =>
    rw [entriesOf, List.map_cons, receive, ← entriesOf] at h
    cases before with
    | nil =>
      simp only [List.nil_append, List.cons.injEq] at h
      rw [← h.1, List.map_nil, List.append_nil]
      exact if_congr List.contains_iff_mem rfl rfl
    | cons d before =>
      simp only [List.cons_append, List.cons.injEq] at h
      have hd : d.name = r.name := by rw [← h.1]; rfl
      rw [ih h.2]
      apply if_congr _ rfl rfl
      simp only [CatalogueEntry.name, List.cons_append, List.mem_cons, List.mem_append,
        List.map_cons] at hd ⊢
      rw [hd]
      tauto

theorem attachTo?_eq {parent : Text} {m : Record} {seen : List Text} (hs : parent ∉ seen)
    (es : List CatalogueEntry) :
    attachTo? parent m es =
      if es.any (·.name = parent)
      then some (receive (fun n => if n = parent then [m] else []) seen es) else none := by
  induction es generalizing seen with
  | nil => simp [attachTo?]
  | cons e es ih =>
    rw [attachTo?, receive]
    by_cases he : e.name = parent
    · subst he
      -- The entries behind the first one of the name are left as they are.
      have hrest : receive (fun n => if n = e.name then [m] else []) (e.name :: seen) es =
          receive (fun _ => []) (e.name :: seen) es := by
        apply receive_congr
        intro d _ hd
        rw [if_neg]
        intro hn
        exact hd (by simp [hn])
      rw [if_pos rfl, hrest, receive_nothing]
      simp [hs]
    · have hseen : parent ∉ e.name :: seen := by simp [hs, Ne.symm he]
      rw [if_neg he, ih hseen]
      by_cases hany : es.any (·.name = parent) = true
      · simp [he, hany]
      · simp [he, hany]

theorem hasParent_of_modifier (c : Catalogue) {m : Record} {parent : Text}
    (hm : m.parent? = some parent) :
    c.hasParent m = ((c.get? (m.category?.getD [])).getD []).any (·.name = parent) := by
  simp only [hasParent, hm, Option.some.injEq, eq_comm (a := parent)]

theorem attach?_of_modifier (c : Catalogue) {m : Record} {parent : Text}
    (hm : m.parent? = some parent) :
    c.attach? m =
      if c.hasParent m then
        some (c.insert (m.category?.getD []) (receive (fun n => if n = parent then [m] else []) []
          ((c.get? (m.category?.getD [])).getD [])))
      else none := by
  simp only [attach?, c.hasParent_of_modifier hm, hm, Option.getD_some]
  cases c.get? (m.category?.getD []) with
  | none => rfl
  | some entries =>
    simp only [Option.getD_some]
    rw [attachTo?_eq (List.not_mem_nil)]
    split <;> rfl

/-- The catalogue after one modifier, which it may have no place for. -/
def attachOne (c : Catalogue) (m : Record) : Catalogue := (c.attach? m).getD c

theorem get?_attachOne (c : Catalogue) {m : Record} (hm : m.isModifier = true) (k : Text) :
    (c.attachOne m).get? k =
      (c.get? k).map (receive (fun n => [m].filter (modifies k n)) []) := by
  obtain ⟨parent, hp⟩ := Option.isSome_iff_exists.mp hm
  rw [attachOne, attach?_of_modifier c hp]
  by_cases hk : k = m.category?.getD []
  · subst hk
    have hdue : (fun n => [m].filter (modifies (m.category?.getD []) n)) =
        fun n => if n = parent then [m] else [] := by
      funext n
      by_cases hn : n = parent
      · simp [modifies, hp, hn]
      · simp [modifies, hp, hn, Ne.symm hn]
    rw [hdue]
    cases hc : c.get? (m.category?.getD []) with
    | none => simp [hasParent, hc]
    | some entries =>
      by_cases hany : c.hasParent m = true
      · simp [hany]
      · -- No entry has the parent's name, so that none receives anything.
        have hsame : receive (fun n => if n = parent then [m] else []) [] entries =
            receive (fun _ => []) [] entries := by
          apply receive_congr
          intro e he _
          rw [if_neg]
          rintro rfl
          apply hany
          rw [c.hasParent_of_modifier hp, hc, Option.getD_some, List.any_eq_true]
          exact ⟨e, he, by simp⟩
        simp [hany, hc, hsame, receive_nothing]
  · have hnone : (fun n => [m].filter (modifies k n)) = fun _ => [] := by
      funext n
      simp [modifies, Ne.symm hk]
    rw [hnone, map_receive_nothing]
    by_cases hany : c.hasParent m = true
    · simp [hany, hk]
    · simp [hany]

def missingParent (m : Record) : Warning :=
  .missingParent m.sourcePath m.name (m.parent?.getD []) (m.category?.getD [])

theorem attachAll_cons (c : Catalogue) {m : Record} (hm : m.isModifier = true) (ms : List Record) :
    c.attachAll (m :: ms) =
      ((if c.hasParent m then [] else [.warning (missingParent m)]) ++
        ((c.attachOne m).attachAll ms).1, ((c.attachOne m).attachAll ms).2) := by
  obtain ⟨parent, hp⟩ := Option.isSome_iff_exists.mp hm
  rw [attachAll, attachOne, attach?_of_modifier c hp]
  by_cases hany : c.hasParent m = true
  · simp [hany]
  · simp [hany, missingParent]

theorem hasParent_of_get? {c d : Catalogue} {due : Text → Text → List Record}
    (h : ∀ k, d.get? k = (c.get? k).map (receive (due k) [])) (r : Record) :
    d.hasParent r = c.hasParent r := by
  rw [hasParent, h, hasParent]
  cases c.get? (r.category?.getD []) with
  | none => rfl
  | some entries => exact any_receive _ [] entries (r.parent? = some ·)

theorem hasParent_attachOne (c : Catalogue) {m : Record} (hm : m.isModifier = true) (r : Record) :
    (c.attachOne m).hasParent r = c.hasParent r := hasParent_of_get? (get?_attachOne c hm) r

theorem get?_attachAll (c : Catalogue) {ms : List Record} (hms : ∀ m ∈ ms, m.isModifier = true)
    (k : Text) :
    (c.attachAll ms).2.get? k =
      (c.get? k).map (receive (fun n => ms.filter (modifies k n)) []) := by
  induction ms generalizing c with
  | nil => simp [attachAll, map_receive_nothing]
  | cons m ms ih =>
    have hm := hms m List.mem_cons_self
    have hrest := ih (c.attachOne m) fun r hr => hms r (List.mem_cons_of_mem _ hr)
    have hdue : (fun n => (m :: ms).filter (modifies k n)) =
        fun n => [m].filter (modifies k n) ++ ms.filter (modifies k n) := by
      funext n
      rw [← List.filter_append, List.singleton_append]
    rw [attachAll_cons c hm, hrest, get?_attachOne c hm, Option.map_map, hdue]
    congr 1
    funext entries
    exact receive_receive _ _ [] entries

theorem hasParent_attachAll (c : Catalogue) {ms : List Record}
    (hms : ∀ m ∈ ms, m.isModifier = true) (r : Record) :
    (c.attachAll ms).2.hasParent r = c.hasParent r := hasParent_of_get? (get?_attachAll c hms) r

theorem events_attachAll (c : Catalogue) {ms : List Record}
    (hms : ∀ m ∈ ms, m.isModifier = true) :
    (c.attachAll ms).1 = (ms.filter (!c.hasParent ·)).map fun m => .warning (missingParent m) := by
  induction ms generalizing c with
  | nil => rfl
  | cons m ms ih =>
    have hm := hms m List.mem_cons_self
    have hrest := ih (c.attachOne m) fun r hr => hms r (List.mem_cons_of_mem _ hr)
    rw [attachAll_cons c hm, hrest]
    simp only [hasParent_attachOne c hm]
    by_cases hany : c.hasParent m = true <;> simp [hany]

def heldBy (es : List CatalogueEntry) : List Record := es.flatMap fun e => e.record :: e.modifiers

/-- All records of a catalogue, entries and modifiers alike. -/
def held (c : Catalogue) : List Record := c.entries.flatMap fun b => heldBy b.2

theorem held_insert (c : Catalogue) (k : Text) (es : List CatalogueEntry) (r : Record) :
    (held (c.insert k es)).count r + (heldBy ((c.get? k).getD [])).count r =
      (held c).count r + (heldBy es).count r := by
  have h := (Dict.flatMap_insert_perm (fun b => heldBy b.2) c k es).count_eq r
  rw [List.count_append, List.count_append] at h
  rw [held, held, ← h]
  cases c.get? k <;> rfl

theorem held_foldl_add (rs : List Record) (c : Catalogue) :
    (held (rs.foldl add c)).Perm (held c ++ rs.filter (·.category?.isSome)) := by
  induction rs generalizing c with
  | nil => simp
  | cons r rs ih =>
    refine (ih (c.add r)).trans (List.perm_iff_count.mpr fun a => ?_)
    rw [add]
    cases hr : r.category? with
    | none => simp [hr]
    | some k =>
      have h := held_insert c k ((c.get? k).getD [] ++ [⟨r, []⟩]) a
      have hlast : heldBy ((c.get? k).getD [] ++ [⟨r, []⟩]) =
          heldBy ((c.get? k).getD []) ++ [r] := by simp [heldBy]
      have hfilter : (r :: rs).filter (·.category?.isSome) =
          [r] ++ rs.filter (·.category?.isSome) := by simp [hr]
      rw [hlast, List.count_append] at h
      rw [hfilter]
      simp only [List.count_append]
      omega

theorem held_map_sortEntries (c : Catalogue) : (held (c.map sortEntries)).Perm (held c) := by
  rw [held, held, Dict.map, List.flatMap_map]
  apply List.Perm.flatMap_left
  intro b _
  exact (List.mergeSort_perm b.2 _).flatMap_right _

theorem heldBy_attachTo? {parent : Text} {m : Record} {es es' : List CatalogueEntry}
    (h : attachTo? parent m es = some es') : (heldBy es').Perm ([m] ++ heldBy es) := by
  induction es generalizing es' with
  | nil => simp [attachTo?] at h
  | cons e es ih =>
    rw [attachTo?] at h
    split at h
    · obtain rfl := Option.some.inj h
      have hmiddle : heldBy ({ e with modifiers := e.modifiers ++ [m] } :: es) =
          (e.record :: e.modifiers) ++ m :: heldBy es := by simp [heldBy]
      rw [hmiddle]
      exact List.perm_middle
    · obtain ⟨fs, hfs, rfl⟩ := Option.map_eq_some_iff.mp h
      exact ((ih hfs).append_left (e.record :: e.modifiers)).trans List.perm_middle

theorem held_attachOne (c : Catalogue) {m : Record} (hm : m.isModifier = true) :
    (held (c.attachOne m) ++ if c.hasParent m then [] else [m]).Perm (held c ++ [m]) := by
  obtain ⟨parent, hp⟩ := Option.isSome_iff_exists.mp hm
  rw [attachOne, attach?_of_modifier c hp]
  by_cases hany : c.hasParent m = true
  · have hto := attachTo?_eq (m := m) (List.not_mem_nil (a := parent))
      ((c.get? (m.category?.getD [])).getD [])
    rw [← c.hasParent_of_modifier hp, if_pos hany] at hto
    refine List.perm_iff_count.mpr fun a => ?_
    have hbucket := (heldBy_attachTo? hto).count_eq a
    have hinsert := held_insert c (m.category?.getD []) (receive
      (fun n => if n = parent then [m] else []) [] ((c.get? (m.category?.getD [])).getD [])) a
    rw [List.count_append] at hbucket
    simp only [hany, ↓reduceIte, Option.getD_some, List.append_nil, List.count_append]
    omega
  · simp [hany]

theorem held_attachAll (c : Catalogue) {ms : List Record} (hms : ∀ m ∈ ms, m.isModifier = true) :
    (held (c.attachAll ms).2 ++ ms.filter (!c.hasParent ·)).Perm (held c ++ ms) := by
  induction ms generalizing c with
  | nil => simp [attachAll]
  | cons m ms ih =>
    have hm := hms m List.mem_cons_self
    have hrest := ih (c.attachOne m) fun r hr => hms r (List.mem_cons_of_mem _ hr)
    simp only [hasParent_attachOne c hm] at hrest
    refine List.perm_iff_count.mpr fun a => ?_
    have hone := (held_attachOne c hm).count_eq a
    have hmore := hrest.count_eq a
    have hfilter : (m :: ms).filter (!c.hasParent ·) =
        (if c.hasParent m then [] else [m]) ++ ms.filter (!c.hasParent ·) := by
      by_cases hany : c.hasParent m = true <;> simp [hany]
    rw [attachAll_cons c hm, hfilter, ← List.singleton_append (l := ms)]
    simp only [List.count_append] at hone hmore ⊢
    omega

def emptyParent? (r : Record) : Option Warning :=
  if r.isModifier then none
  else if r.hasFlag "modifies" then some (.emptyParent r.sourcePath r.name "modifies".toList)
  else if r.hasFlag "parent" then some (.emptyParent r.sourcePath r.name "parent".toList)
  else none

/-- What the records amount to: where each of them stands, and which warnings go with them. -/
structure Arranges (records : List Record) (events : List Event) (c : Catalogue) : Prop where
  ascending : c.keys.Pairwise fun a b => Text.precedes a b = true
  keys : ∀ k, k ∈ c.keys ↔ ∃ r ∈ records, topLevel k r = true
  bucket : ∀ k entries, c.get? k = some entries →
    Text.StableSort Record.name (records.filter (topLevel k)) (entries.map (·.record))
  modifiers : ∀ k before e after, c.get? k = some (before ++ e :: after) →
    e.modifiers =
      if e.name ∈ before.map (·.name) then [] else records.filter (modifies k e.name)
  warned : warnings events =
    records.filterMap emptyParent? ++
      (records.filter fun m => m.isModifier && !c.hasParent m).map missingParent
  conserved : records.Perm
    (held c ++ (records.filter fun m => m.isModifier && !c.hasParent m) ++
      records.filter fun r => !r.isModifier && r.category?.isNone)

/-- The catalogue before any modifier is put into it. -/
def base (records : List Record) : Catalogue :=
  ((records.filter (!·.isModifier)).foldl add ∅).map sortEntries

theorem sortEntries_entriesOf (rs : List Record) :
    sortEntries (entriesOf rs) =
      entriesOf (rs.mergeSort fun a b => Text.atMost a.name b.name) := by
  symm
  apply List.map_mergeSort
  intro a _ b _
  rfl

theorem get?_base (records : List Record) (k : Text) :
    (base records).get? k =
      if records.any (topLevel k) then some (entriesOf (ranked records k)) else none := by
  have hfilter : (records.filter (!·.isModifier)).filter (·.category? = some k) =
      records.filter (topLevel k) := by
    rw [List.filter_filter]
    congr 1
    funext r
    exact Bool.and_comm _ _
  have hany : (records.filter (!·.isModifier)).any (·.category? = some k) =
      records.any (topLevel k) := by
    rw [List.any_filter]
    rfl
  rw [base, Dict.get?_map, get?_foldl_add, hfilter, hany, ranked, ← sortEntries_entriesOf]
  split <;> simp

theorem assemble_eq (records : List Record) :
    assemble records =
      ((records.filter (!·.isModifier)).filterMap emptyParentWarning? ++
        (if (records.filter (!·.isModifier)).countP (·.category?.isNone) = 0 then []
          else [.note (.leftOut ((records.filter (!·.isModifier)).countP (·.category?.isNone)))]) ++
        ((base records).attachAll (records.filter (·.isModifier))).1,
        ((base records).attachAll (records.filter (·.isModifier))).2) := rfl

theorem filter_modifies (records : List Record) (k parent : Text) :
    (records.filter (·.isModifier)).filter (modifies k parent) =
      records.filter (modifies k parent) := by
  rw [List.filter_filter]
  apply List.filter_congr
  intro m _
  by_cases hp : m.parent? = some parent <;> simp [modifies, Record.isModifier, hp]

theorem warnings_emptyParent (records : List Record) :
    warnings ((records.filter (!·.isModifier)).filterMap emptyParentWarning?) =
      records.filterMap emptyParent? := by
  rw [warnings, List.filterMap_filterMap, List.filterMap_filter]
  congr 1
  funext r
  unfold emptyParent? emptyParentWarning? Record.bareParent?
  by_cases hm : r.isModifier = true
  · simp [hm]
  · by_cases h1 : r.hasFlag "modifies" = true
    · simp [hm, h1, Event.warning?]
    · by_cases h2 : r.hasFlag "parent" = true <;> simp [hm, h1, h2, Event.warning?]

theorem warnings_assemble (records : List Record) :
    warnings (assemble records).1 =
      records.filterMap emptyParent? ++
        (records.filter fun m =>
          m.isModifier && !(base records).hasParent m).map missingParent := by
  have hmods : ∀ m ∈ records.filter (·.isModifier), m.isModifier = true := by simp
  have hnote (n : Nat) :
      warnings (if n = 0 then [] else [.note (.leftOut n)]) = [] := by
    split <;> rfl
  have hmissing (ms : List Record) :
      warnings (ms.map fun m => .warning (missingParent m)) = ms.map missingParent := by
    simp [warnings, List.filterMap_map, Function.comp_def, Event.warning?]
  rw [assemble_eq, events_attachAll _ hmods, warnings_append, warnings_append,
    warnings_emptyParent, hnote, hmissing, List.append_nil, List.filter_filter]
  simp only [Bool.and_comm]

theorem hasParent_assemble (records : List Record) (m : Record) :
    (assemble records).2.hasParent m = (base records).hasParent m :=
  hasParent_attachAll (base records) (by simp) m

theorem get?_assemble (records : List Record) (k : Text) :
    (assemble records).2.get? k =
      if records.any (topLevel k) then
        some (receive (fun n => records.filter (modifies k n)) [] (entriesOf (ranked records k)))
      else none := by
  rw [assemble_eq, get?_attachAll _ (by simp), get?_base]
  simp only [filter_modifies]
  split <;> rfl

theorem entries_of_get?_assemble {records : List Record} {k : Text} {entries : List CatalogueEntry}
    (h : (assemble records).2.get? k = some entries) :
    entries =
      receive (fun n => records.filter (modifies k n)) [] (entriesOf (ranked records k)) := by
  rw [get?_assemble] at h
  split at h
  · exact (Option.some.inj h).symm
  · cases h

theorem conserved_assemble (records : List Record) :
    records.Perm (held (assemble records).2 ++
      (records.filter fun m => m.isModifier && !(base records).hasParent m) ++
      records.filter fun r => !r.isModifier && r.category?.isNone) := by
  refine List.perm_iff_count.mpr fun a => ?_
  have hmods : ∀ m ∈ records.filter (·.isModifier), m.isModifier = true := by simp
  have hsplit := (List.filter_append_perm (·.isModifier) records).count_eq a
  have hplain := (List.filter_append_perm (·.category?.isSome)
    (records.filter (!·.isModifier))).count_eq a
  have hbase : (held (base records)).count a =
      ((records.filter (!·.isModifier)).filter (·.category?.isSome)).count a :=
    ((held_map_sortEntries _).trans (held_foldl_add _ ∅)).count_eq a
  have hattach := (held_attachAll (base records) hmods).count_eq a
  have hmissing : (records.filter (·.isModifier)).filter (!(base records).hasParent ·) =
      records.filter fun m => m.isModifier && !(base records).hasParent m := by
    simp only [List.filter_filter, Bool.and_comm]
  have hleft : ((records.filter (!·.isModifier)).filter (!·.category?.isSome)) =
      records.filter fun r => !r.isModifier && r.category?.isNone := by
    simp only [List.filter_filter, Option.not_isSome, Bool.and_comm]
  rw [hmissing] at hattach
  rw [hleft] at hplain
  rw [assemble_eq]
  simp only [List.count_append] at hsplit hplain hattach ⊢
  omega

theorem arranges_assemble (records : List Record) :
    Arranges records (assemble records).1 (assemble records).2 where
  ascending := Dict.keys_ascending _
  keys k := by
    rw [Dict.mem_keys_iff, get?_assemble, ← List.any_eq_true]
    split <;> simp_all
  bucket k entries h := by
    have hrecords (rs : List Record) : (entriesOf rs).map (·.record) = rs := by
      simp [entriesOf, Function.comp_def]
    rw [entries_of_get?_assemble h, map_record_receive, hrecords]
    exact Text.stableSort_mergeSort Record.name _
  modifiers k before e after h := receive_eq_append (entries_of_get?_assemble h).symm
  warned := by simp only [warnings_assemble, hasParent_assemble]
  conserved := by simpa only [hasParent_assemble] using conserved_assemble records

end StyleGuide.Catalogue
