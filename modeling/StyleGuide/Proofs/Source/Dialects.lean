import StyleGuide.Proofs.Block.Strict
import StyleGuide.Proofs.Comment.Policies
import StyleGuide.Proofs.Report
import StyleGuide.Source

namespace StyleGuide

namespace Source

variable {α β : Type} {path : Path}

/-- What the strict outcome tells of the permissive one: a result is the same result and comes
without a word, and a refused line is the first thing warned of. -/
structure Agrees (path : Path) (strict permissive : Outcome α) : Prop where
  ok : ∀ a, strict.result = .ok a → permissive = ⟨[], .ok a⟩
  malformed : ∀ line, strict.result = .error (.malformedParameter path line) →
    ∃ more, warnings permissive.events = .malformedParameter path line :: more

theorem Agrees.andThen {s p : Outcome α} {f g : α → Outcome β} (h : Agrees path s p)
    (hfg : ∀ a, Agrees path (f a) (g a)) : Agrees path (s.andThen f) (p.andThen g) := by
  cases hs : s.result with
  | ok a =>
    have hf : (s.andThen f).result = (f a).result := by simp [Outcome.andThen, hs]
    have hg : p.andThen g = g a := by simp [Outcome.andThen, h.ok a hs]
    exact ⟨fun b hb => hg ▸ (hfg a).ok b (hf ▸ hb),
      fun line hline => hg ▸ (hfg a).malformed line (hf ▸ hline)⟩
  | error e =>
    have hf : (s.andThen f).result = .error e := by simp [Outcome.andThen, hs]
    constructor
    · intro b hb
      rw [hf] at hb
      cases hb
    · intro line hline
      rw [hf] at hline
      obtain ⟨more, hmore⟩ := h.malformed line (hs.trans (by simpa using hline))
      have hevents : ∃ rest, (p.andThen g).events = p.events ++ rest := by
        unfold Outcome.andThen
        split
        · exact ⟨_, rfl⟩
        · exact ⟨[], by simp⟩
      obtain ⟨rest, hrest⟩ := hevents
      refine ⟨more ++ warnings rest, ?_⟩
      rw [hrest, warnings_append, hmore]
      rfl

theorem agrees_silent (a : α) : Agrees path ⟨[], .ok a⟩ ⟨[], .ok a⟩ := by
  constructor
  · intro b hb
    rw [Except.ok.inj hb]
  · intro line hline
    cases hline

theorem agrees_requireId (oc : Option Comment) :
    Agrees path (requireId path oc) (pure oc) := by
  cases oc with
  | none => exact agrees_silent none
  | some c =>
    rw [requireId]
    split_ifs
    · exact agrees_silent (some c)
    · constructor
      · intro a ha
        cases ha
      · intro line hline
        cases hline

theorem agrees_readComment (path : Path) (t : Text) :
    Agrees path (readComment .reject path t) (readComment .drop path t) := by
  rcases Comment.read_reject_or t with ⟨reading, hreject, hdrop, hnone⟩ |
    ⟨line, reading, more, hreject, hdrop, hfirst⟩
  · simp only [readComment, hreject, hdrop, hnone]
    exact agrees_silent reading.comment
  · simp only [readComment, hreject, hdrop, hfirst]
    constructor
    · intro a ha
      cases ha
    · intro bad hbad
      obtain rfl : line = bad := by simpa [Outcome.fail] using hbad
      exact ⟨_, rfl⟩

theorem agrees_readBlock {b : Block} {t : Text} (hstrict : b.undecorateStrict? = some t)
    (hpermissive : Block.undecorate b.text = t) :
    Agrees path (readBlock .strict path b) (readBlock .permissive path b) := by
  have h := (agrees_readComment path t).andThen agrees_requireId
  rw [Outcome.andThen_pure] at h
  simpa only [readBlock, hstrict, hpermissive] using h

theorem agrees_each {bs : List Block}
    (h : ∀ b ∈ bs, Agrees path (readBlock .strict path b) (readBlock .permissive path b)) :
    Agrees path (Outcome.each (readBlock .strict path) bs)
      (Outcome.each (readBlock .permissive path) bs) := by
  induction bs with
  | nil => exact agrees_silent []
  | cons b bs ih =>
    apply (h b List.mem_cons_self).andThen
    intro oc
    apply (ih fun c hc => h c (List.mem_cons_of_mem _ hc)).andThen
    intro ocs
    exact agrees_silent (oc :: ocs)

theorem agrees_read (path : Path) {source : Text}
    (h : ∀ b ∈ Block.all source, ∃ ls, b.Stripped ls ∧ ∀ l ∈ ls, Block.Flush l) :
    Agrees path (read .strict path source) (read .permissive path source) := by
  have hblocks : ∀ b ∈ Block.all source,
      Agrees path (readBlock .strict path b) (readBlock .permissive path b) := by
    intro b hb
    obtain ⟨ls, hls, hflush⟩ := h b hb
    exact agrees_readBlock (Block.undecorateStrict?_eq_some_iff.mpr ⟨ls, hls, rfl⟩)
      (hls.undecorate_of_flush hb hflush)
  apply (agrees_each hblocks).andThen
  intro ocs
  exact agrees_silent (ocs.filterMap id)

theorem permissive_refines_strict (path : Path) (source : Text) :
    (∀ b ∈ Block.all source, ∀ t, b.undecorateStrict? = some t →
      ∃ ls, b.Stripped ls ∧ t = Text.joinLines ls ∧
        Block.undecorate b.text =
          Text.joinLines (ls.map fun l => Text.trim (Block.unslash l))) ∧
      ((∀ b ∈ Block.all source, ∃ ls, b.Stripped ls ∧ ∀ l ∈ ls, Block.Flush l) →
        (∀ cs, (read .strict path source).result = .ok cs →
          read .permissive path source = ⟨[], .ok cs⟩) ∧
        ∀ line, (read .strict path source).result = .error (.malformedParameter path line) →
          ∃ more, warnings (read .permissive path source).events =
            .malformedParameter path line :: more) := by
  constructor
  · intro b hb t ht
    obtain ⟨ls, hls, rfl⟩ := Block.undecorateStrict?_eq_some_iff.mp ht
    exact ⟨ls, hls, rfl, hls.undecorate hb⟩
  · intro h
    have hread := agrees_read path h
    exact ⟨hread.ok, hread.malformed⟩

def sheet : Text :=
  ("/**\n * See * /a\n *\n * @id a\n */\np { }\n" ++
    "/**\r\n * @id b\n * @ c\n * d\n */").toList

theorem permissive_refines_strict_sheet :
    (∀ b ∈ Block.all sheet, ∃ ls, b.Stripped ls ∧ ∀ l ∈ ls, Block.Flush l) ∧
      (read .strict (Text.bytes "a.css".toList) sheet).result =
        .error (.malformedParameter (Text.bytes "a.css".toList) "@ c".toList) ∧
      ∃ more, warnings (read .permissive (Text.bytes "a.css".toList) sheet).events =
        .malformedParameter (Text.bytes "a.css".toList) "@ c".toList :: more := by
  have hall : Block.all sheet =
      [⟨"/**\n * See * /a\n *\n * @id a\n */".toList, 0, true⟩,
        ⟨"/**\r\n * @id b\n * @ c\n * d\n */".toList, 38, true⟩] := by decide +kernel
  have hblocks : ∀ b ∈ Block.all sheet, ∃ ls, b.Stripped ls ∧ ∀ l ∈ ls, Block.Flush l := by
    rw [hall]
    simp only [List.forall_mem_cons, List.not_mem_nil, false_implies, implies_true, and_true]
    constructor
    · refine ⟨["See * /a".toList, [], "@id a".toList], ⟨rfl, ?_⟩, by decide⟩
      exact Block.strictLines?_eq_some_iff.mp (by decide)
    · refine ⟨["@id b".toList, "@ c".toList, "d".toList], ⟨rfl, ?_⟩, by decide⟩
      exact Block.strictLines?_eq_some_iff.mp (by decide)
  have herror : (read .strict (Text.bytes "a.css".toList) sheet).result =
      .error (.malformedParameter (Text.bytes "a.css".toList) "@ c".toList) := by decide +kernel
  exact ⟨hblocks, herror, ((permissive_refines_strict _ _).2 hblocks).2 _ herror⟩

end Source

end StyleGuide
