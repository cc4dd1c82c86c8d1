import Mathlib
import StyleGuide.Config
import StyleGuide.Proofs.Document.Lossless
import StyleGuide.Proofs.Json.Soundness
import StyleGuide.Proofs.Text.Decimal

namespace StyleGuide

namespace Config

/-- One change to the members of an object: another order, or one member more or less whose name is
not among the known ones. -/
inductive Edit : List (Option Text × Json) → List (Option Text × Json) → Prop
  | reorder {ms ms' : List (Option Text × Json)} (h : ms.Perm ms') : Edit ms ms'
  | insert {front back : List (Option Text × Json)} {key : Text} (j : Json) (h : key ∉ keys) :
      Edit (front ++ back) (front ++ (some key, j) :: back)
  | delete {front back : List (Option Text × Json)} {key : Text} (j : Json) (h : key ∉ keys) :
      Edit (front ++ (some key, j) :: back) (front ++ back)

theorem member?_perm {ms ms' : List (Option Text × Json)} (h : ms.Perm ms') (key : Text) :
    member? ms key = member? ms' key := by
  have hfilter := h.filter fun m => m.1 = some key
  unfold member?
  generalize ms.filter _ = found at hfilter ⊢
  generalize ms'.filter _ = found' at hfilter ⊢
  match found, found' with
  | [], [] => rfl
  | [m], [m'] =>
    obtain rfl := List.singleton_perm_singleton.mp hfilter
    rfl
  | _ :: _ :: _, _ :: _ :: _ => rfl
  | [], _ :: _ | _ :: _, [] | [_], _ :: _ :: _ | _ :: _ :: _, [_] =>
    exact absurd hfilter.length_eq (by simp)

theorem member?_append_cons {front back : List (Option Text × Json)} {key name : Text} {j : Json}
    (h : name ≠ key) :
    member? (front ++ (some name, j) :: back) key = member? (front ++ back) key := by
  have hother : decide ((some name : Option Text) = some key) = false := by simp [h]
  simp only [member?, List.filter_append, List.filter_cons, hother, Bool.false_eq_true, ↓reduceIte]

theorem ofJson?_object (ms : List (Option Text × Json)) :
    ofJson? (.object ms) = if ms.all (·.1.isSome) then
      ((keys.map (member? ms)).mapM id).bind ofMembers? else none := by
  rw [ofJson?, List.mapM_map]
  rfl

theorem ofJson?_congr {ms ms' : List (Option Text × Json)}
    (hnames : ms.all (·.1.isSome) = ms'.all (·.1.isSome))
    (hmembers : ∀ key ∈ keys, member? ms key = member? ms' key) :
    ofJson? (.object ms) = ofJson? (.object ms') := by
  have hmap : keys.map (member? ms) = keys.map (member? ms') := List.map_congr_left hmembers
  rw [ofJson?_object, ofJson?_object, hnames, hmap]

theorem Edit.ofJson?_eq {ms ms' : List (Option Text × Json)} (h : Edit ms ms') :
    ofJson? (.object ms') = ofJson? (.object ms) := by
  cases h with
  | reorder h =>
    have hnames : ms'.all (·.1.isSome) = ms.all (·.1.isSome) := by
      rw [Bool.eq_iff_iff, List.all_eq_true, List.all_eq_true]
      simp only [h.mem_iff]
    exact ofJson?_congr hnames fun key _ => (member?_perm h key).symm
  | insert j h =>
    refine ofJson?_congr (by simp) fun key hkey => member?_append_cons ?_
    rintro rfl
    exact h hkey
  | delete j h =>
    refine ofJson?_congr (by simp) fun key hkey => (member?_append_cons ?_).symm
    rintro rfl
    exact h hkey

theorem parse?_of_spells {j : Json} {t : Text} (h : Json.Spells (.text j) t) :
    parse? t = ofJson? j := by
  rw [parse?, h.parse?, Option.bind_some]

theorem parse?_of_edits {ms ms' : List (Option Text × Json)} (h : Relation.ReflTransGen Edit ms ms')
    {t t' : Text} (ht : Json.Spells (.text (.object ms)) t)
    (ht' : Json.Spells (.text (.object ms')) t') : parse? t' = parse? t := by
  rw [parse?_of_spells ht', parse?_of_spells ht]
  clear ht ht'
  induction h with
  | refl => rfl
  | tail _ hedit ih => rw [hedit.ofJson?_eq, ih]

theorem spells_of_parse? {t : Text} {c : Config} (h : parse? t = some c) :
    (∃ ms, Json.Spells (.text (.object ms)) t) ∨ ∃ js, Json.Spells (.text (.array js)) t := by
  obtain ⟨j, hj, hc⟩ := Option.bind_eq_some_iff.mp h
  have hspells := Json.parse?_eq_some_iff.mp hj
  cases j with
  | object ms => exact .inl ⟨ms, hspells⟩
  | array js => exact .inr ⟨js, hspells⟩
  | null | bool _ | number _ | string _ => cases hc

/-- The members of an object that has the values under the names where there are any. -/
def present (names : List Text) (values : List (Option Json)) : List (Option Text × Json) :=
  (names.zip values).filterMap fun e => e.2.map fun j => (some e.1, j)

theorem present_cons (name : Text) (names : List Text) (value : Option Json)
    (values : List (Option Json)) :
    present (name :: names) (value :: values) =
      (value.map fun j => (some name, j)).toList ++ present names values := by
  cases value <;> simp [present]

theorem of_mem_present {names : List Text} {values : List (Option Json)}
    {m : Option Text × Json} (h : m ∈ present names values) :
    (∃ name ∈ names, m.1 = some name) ∧ some m.2 ∈ values := by
  obtain ⟨⟨name, value⟩, hmem, hm⟩ := List.mem_filterMap.mp h
  obtain ⟨hname, hvalue⟩ := List.of_mem_zip hmem
  obtain ⟨j, rfl, rfl⟩ := Option.map_eq_some_iff.mp hm
  exact ⟨⟨name, hname, rfl⟩, hvalue⟩

theorem map_member?_present {names : List Text} {values : List (Option Json)}
    (hnames : names.Nodup) (hlength : names.length = values.length) :
    names.map (member? (present names values)) = values.map some := by
  induction names generalizing values with
  | nil =>
    obtain rfl := List.length_eq_zero_iff.mp hlength.symm
    rfl
  | cons name names ih =>
    obtain ⟨value, values, rfl⟩ := List.exists_cons_of_length_eq_add_one hlength.symm
    obtain ⟨hnew, hnames⟩ := List.nodup_cons.mp hnames
    have hrest := ih hnames (Nat.succ.inj hlength)
    rw [List.map_cons, List.map_cons, ← hrest, present_cons]
    congr 1
    · have hnone : (present names values).filter (fun m => m.1 = some name) = [] := by
        rw [List.filter_eq_nil_iff]
        intro m hm
        obtain ⟨⟨other, hother, hname⟩, _⟩ := of_mem_present hm
        rw [hname]
        simp only [Option.some.injEq, decide_eq_true_eq]
        rintro rfl
        exact hnew hother
      rw [member?, List.filter_append, hnone]
      cases value <;> simp
    · apply List.map_congr_left
      intro key hkey
      cases value with
      | none => rfl
      | some j =>
        have hne : name ≠ key := by
          rintro rfl
          exact hnew hkey
        exact @member?_append_cons [] _ key name j hne

end Config

def Dialect.name : Dialect → Text
  | permissive => "permissive".toList
  | strict => "strict".toList

theorem Dialect.ofName?_name (d : Dialect) : ofName? d.name = some d := by
  cases d <;> decide

def Layout.name : Layout → Text
  | category => "category".toList
  | tree => "tree".toList

theorem Layout.ofName?_name (l : Layout) : ofName? l.name = some l := by
  cases l <;> decide

theorem Json.number_ofNat (n : Nat) : Number (Text.ofNat n) := by
  have hwhole : Whole (Text.ofNat n) := by
    by_cases hn : n = 0
    · subst hn
      exact .inl (by rw [Text.ofNat]; rfl)
    · exact .inr ⟨⟨Text.ofNat_ne_nil n, Text.isDigit_ofNat n⟩, Text.head?_ofNat hn⟩
  have hnumber := Number.intro (.inl rfl) hwhole (.inl rfl) (.inl rfl)
  simpa using hnumber

namespace Config

/-- How a list of texts is written: as an array, and an empty one perhaps not at all. -/
inductive Listed : List Text → Option Json → Prop
  | absent : Listed [] none
  | array (ts : List Text) : Listed ts (some (.array (ts.map .text)))

/-- How patterns are written: as a list, and a single one perhaps as a plain string. -/
inductive Ignored : List Text → Option Json → Prop
  | listed {ts : List Text} {value : Option Json} (h : Listed ts value) : Ignored ts value
  | one (t : Text) : Ignored [t] (some (.text t))

def values (c : Config) (ignore extensions : Option Json) : List (Option Json) :=
  [c.styleFolder.map .text, c.markupFolder.map .text, c.outputFolder.map .text, ignore, extensions,
    c.dialect.map fun d => .text d.name, c.layout.map fun l => .text l.name,
    c.jobs.map fun n => .number (Text.ofNat n)]

def members (c : Config) (ignore extensions : Option Json) : List (Option Text × Json) :=
  present keys (c.values ignore extensions)

theorem optional_map {α : Type} {read : Json → Option α} {write : α → Json}
    (hnull : ∀ v, write v ≠ .null) {value : Option α} (h : ∀ v ∈ value, read (write v) = some v) :
    optional read (value.map write) = some value := by
  cases value with
  | none => rfl
  | some v =>
    rw [Option.map_some, optional, h v rfl]
    · rfl
    · exact hnull v

theorem textsOf?_array (ts : List Text) : textsOf? (.array (ts.map .text)) = some ts := by
  have hback : ∀ t, textOf? (.text t) = some t := fun _ => rfl
  exact mapM_map_of_inverse fun t _ => hback t

theorem Listed.orEmpty_eq {ts : List Text} {value : Option Json} (h : Listed ts value) :
    orEmpty textsOf? value = some ts := by
  cases h with
  | absent => rfl
  | array => exact textsOf?_array ts

theorem Ignored.orEmpty_eq {ts : List Text} {value : Option Json} (h : Ignored ts value) :
    orEmpty patternsOf? value = some ts := by
  cases h with
  | listed h =>
    cases h with
    | absent => rfl
    | array => exact textsOf?_array ts
  | one t => rfl

theorem ofMembers?_values {c : Config} {ignore extensions : Option Json}
    (hjobs : ∀ n ∈ c.jobs, n < 2 ^ 64) (hignore : Ignored c.styleIgnore ignore)
    (hextensions : Listed c.styleExtensions extensions) :
    ofMembers? (c.values ignore extensions) = some c := by
  have htext (value : Option Text) : optional textOf? (value.map .text) = some value :=
    optional_map (fun _ => Json.noConfusion) fun _ _ => rfl
  have hdialect : optional dialectOf? (c.dialect.map fun d => .text d.name) = some c.dialect :=
    optional_map (fun _ => Json.noConfusion) fun d _ => d.ofName?_name
  have hlayout : optional layoutOf? (c.layout.map fun l => .text l.name) = some c.layout :=
    optional_map (fun _ => Json.noConfusion) fun l _ => l.ofName?_name
  have hlimit : Text.wordLimit = 2 ^ 64 := by norm_num [Text.wordLimit]
  have hjobs : optional countOf? (c.jobs.map fun n => .number (Text.ofNat n)) = some c.jobs :=
    optional_map (fun _ => Json.noConfusion) fun n hn => Text.word?_ofNat (hlimit ▸ hjobs n hn)
  rw [values, ofMembers?]
  simp only [htext, hdialect, hlayout, hjobs, hignore.orEmpty_eq, hextensions.orEmpty_eq,
    Option.bind_eq_bind, Option.bind_some]
  rfl

theorem ofJson?_members {c : Config} {ignore extensions : Option Json}
    (hjobs : ∀ n ∈ c.jobs, n < 2 ^ 64) (hignore : Ignored c.styleIgnore ignore)
    (hextensions : Listed c.styleExtensions extensions) :
    ofJson? (.object (c.members ignore extensions)) = some c := by
  have hnames : (c.members ignore extensions).all (·.1.isSome) = true := by
    rw [List.all_eq_true]
    intro m hm
    obtain ⟨⟨name, _, hname⟩, _⟩ := of_mem_present hm
    rw [hname, Option.isSome_some]
  have hvalues : keys.map (member? (c.members ignore extensions)) =
      (c.values ignore extensions).map some := map_member?_present (by decide) rfl
  have hread : ((c.values ignore extensions).map some).mapM id =
      some (c.values ignore extensions) := by
    have hback : ∀ v : Option Json, id (some v) = some v := fun _ => rfl
    exact mapM_map_of_inverse fun v _ => hback v
  rw [ofJson?_object, if_pos hnames, hvalues, hread, Option.bind_some,
    ofMembers?_values hjobs hignore hextensions]

theorem Listed.proper {ts : List Text} {value : Option Json} (h : Listed ts value) :
    ∀ j ∈ value, j.Proper := by
  cases h with
  | absent => simp
  | array =>
    rintro j ⟨⟩
    apply Json.Proper.array
    rw [List.forall_mem_map]
    exact fun t _ => .string _

theorem Ignored.proper {ts : List Text} {value : Option Json} (h : Ignored ts value) :
    ∀ j ∈ value, j.Proper := by
  cases h with
  | listed h => exact h.proper
  | one t =>
    rintro j ⟨⟩
    exact .string _

theorem proper_members {c : Config} {ignore extensions : Option Json}
    (hignore : Ignored c.styleIgnore ignore) (hextensions : Listed c.styleExtensions extensions) :
    (Json.object (c.members ignore extensions)).Proper := by
  have hmap {α : Type} {write : α → Json} (hwrite : ∀ v, (write v).Proper) (value : Option α) :
      ∀ j ∈ value.map write, j.Proper := by
    intro j hj
    obtain ⟨v, _, rfl⟩ := Option.map_eq_some_iff.mp hj
    exact hwrite v
  have hvalues : ∀ value ∈ c.values ignore extensions, ∀ j ∈ value, j.Proper := by
    simp only [values, List.forall_mem_cons, List.not_mem_nil, false_implies, implies_true,
      and_true]
    exact ⟨hmap (fun _ => .string _) _, hmap (fun _ => .string _) _, hmap (fun _ => .string _) _,
      hignore.proper, hextensions.proper, hmap (fun _ => .string _) _, hmap (fun _ => .string _) _,
      hmap (fun n => .number (Json.number_ofNat n)) _⟩
  apply Json.Proper.object
  intro m hm
  exact hvalues _ (of_mem_present hm).2 m.2 rfl

theorem parse?_by_name :
    (∀ t c, parse? t = some c →
      (∃ ms, Json.Spells (.text (.object ms)) t) ∨ ∃ js, Json.Spells (.text (.array js)) t) ∧
    (∀ ms ms' t t', Relation.ReflTransGen Edit ms ms' → Json.Spells (.text (.object ms)) t →
      Json.Spells (.text (.object ms')) t' → parse? t' = parse? t) ∧
    ∀ (c : Config) (ignore extensions : Option Json), (∀ n ∈ c.jobs, n < 2 ^ 64) →
      Ignored c.styleIgnore ignore → Listed c.styleExtensions extensions →
      Json.Spells (.text (.object (c.members ignore extensions)))
          (Json.object (c.members ignore extensions)).render ∧
        ∀ t, Json.Spells (.text (.object (c.members ignore extensions))) t → parse? t = some c := by
  refine ⟨fun t c => spells_of_parse?, fun ms ms' t t' h => parse?_of_edits h, ?_⟩
  intro c ignore extensions hjobs hignore hextensions
  have hnewline : Json.Gap ['\n'] := by simp [Json.Gap]
  have hprint := (proper_members hignore hextensions).spells_print 0
  refine ⟨?_, fun t ht => ?_⟩
  · rw [Json.render_eq_print]
    exact .text Json.gap_nil hprint hnewline
  · rw [parse?_of_spells ht, ofJson?_members hjobs hignore hextensions]

def terse : Text := "\x7b\"layout\":\"tree\",\"jobs\":2\x7d".toList

/-- The same members in another order, behind one whose value holds half of a surrogate pair. -/
def roomy : Text :=
  "\x7b \"a\" : [ \x7b \"\\ud800\" : 1e999 \x7d ] ,\n\"\\u006aobs\":2,\"layout\":\"tree\" \x7d".toList

def oneIgnored : Config :=
  { styleFolder := some "ü\"\n".toList, styleIgnore := ["a*".toList],
    dialect := some .strict, jobs := some (2 ^ 64 - 1) }

theorem parse?_by_name_roomy :
    parse? terse = some { layout := some .tree, jobs := some 2 } ∧
      parse? roomy = parse? terse ∧
      ((∃ ms, Json.Spells (.text (.object ms)) terse) ∨
        ∃ js, Json.Spells (.text (.array js)) terse) ∧
      ∀ t, Json.Spells (.text (.object (oneIgnored.members (some (.text "a*".toList)) none))) t →
        parse? t = some oneIgnored := by
  have hparse : parse? terse = some { layout := some .tree, jobs := some 2 } := by decide +kernel
  have hterse : Json.parse? terse = some (.object [(some "layout".toList, .text "tree".toList),
      (some "jobs".toList, .number ['2'])]) := by cbv
  have hroomy : Json.parse? roomy = some (.object
      [(some "a".toList, .array [.object [(none, .number "1e999".toList)]]),
        (some "jobs".toList, .number ['2']), (some "layout".toList, .text "tree".toList)]) := by cbv
  have hswap : Edit [(some "layout".toList, .text "tree".toList),
      (some "jobs".toList, .number ['2'])] [(some "jobs".toList, .number ['2']),
        (some "layout".toList, .text "tree".toList)] := .reorder (.swap _ _ [])
  have hinsert := @Edit.insert [] [(some "jobs".toList, .number ['2']),
    (some "layout".toList, .text "tree".toList)] "a".toList
    (.array [.object [(none, .number "1e999".toList)]]) (by decide)
  obtain ⟨haccepted, hedits, hwritten⟩ := parse?_by_name
  refine ⟨hparse, ?_, haccepted _ _ hparse, ?_⟩
  · exact hedits _ _ _ _ (.tail (.single hswap) hinsert) (Json.parse?_eq_some_iff.mp hterse)
      (Json.parse?_eq_some_iff.mp hroomy)
  · exact (hwritten oneIgnored _ none (by simp [oneIgnored]) (.one _) .absent).2

end Config

end StyleGuide
