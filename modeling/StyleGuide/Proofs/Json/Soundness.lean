import StyleGuide.Proofs.Json.Reading

namespace StyleGuide.Json

theorem isHex_of_hexValue? {c : Char} {n : Nat} (h : hexValue? c = some n) : IsHex c n := by
  have hsmall : ∀ k < 128, ∀ n ∈ hexValue? (Char.ofNat k), n < 16 ∧
      (Char.ofNat k = Nat.digitChar n ∨ Char.ofNat k = (Nat.digitChar n).toUpper) := by
    decide
  have hc : c.toNat < 128 := by
    have hle : c ≤ 'f' := by
      unfold hexValue? at h
      split_ifs at h with h₁ h₂ h₃
      · exact Char.le_trans h₁.2 (by decide)
      · exact h₂.2
      · exact Char.le_trans h₃.2 (by decide)
    exact Nat.lt_of_le_of_lt (show c.toNat ≤ 102 from hle) (by decide)
  have hhex := hsmall c.toNat hc n
  rw [Char.ofNat_toNat] at hhex
  exact hhex h

theorem isHex_of_hex4? {a b c d : Char} {n : Nat} (h : hex4? a b c d = some n) :
    ∃ w x y z, IsHex a w ∧ IsHex b x ∧ IsHex c y ∧ IsHex d z ∧
      n = ((w * 16 + x) * 16 + y) * 16 + z := by
  unfold hex4? at h
  split at h
  · next w x y z hw hx hy hz =>
    exact ⟨w, x, y, z, isHex_of_hexValue? hw, isHex_of_hexValue? hx, isHex_of_hexValue? hy,
      isHex_of_hexValue? hz, (Option.some.inj h).symm⟩
  · cases h

theorem mem_of_unescape? {e c : Char} (h : unescape? e = some c) : (e, c) ∈ shortEscapes := by
  unfold unescape? at h
  split at h
  case h_9 => cases h
  all_goals
    obtain rfl := Option.some.inj h
    decide

theorem chars_of_stringBody? {t after : Text} {pieces : List Piece}
    (h : stringBody? t = some (pieces, after)) :
    ∃ body, Chars pieces body ∧ t = body ++ '"' :: after := by
  fun_induction stringBody? t generalizing pieces after with
  | case1 | case4 | case6 | case7 | case9 => simp at h
  | case2 rest =>
    simp only [Option.some.injEq, Prod.mk.injEq] at h
    obtain ⟨rfl, rfl⟩ := h
    exact ⟨[], .nil, rfl⟩
  | case3 a b c d rest n found more hmore hn ih =>
    simp only [Option.some.injEq, Prod.mk.injEq] at h
    obtain ⟨rfl, rfl⟩ := h
    obtain ⟨body, hbody, rfl⟩ := ih hmore
    obtain ⟨w, x, y, z, ha, hb, hc, hd, rfl⟩ := isHex_of_hex4? hn
    exact ⟨_, .code ha hb hc hd hbody, rfl⟩
  | case5 e rest _ c found more hmore he ih =>
    simp only [Option.some.injEq, Prod.mk.injEq] at h
    obtain ⟨rfl, rfl⟩ := h
    obtain ⟨body, hbody, rfl⟩ := ih hmore
    exact ⟨_, .short (mem_of_unescape? he) hbody, rfl⟩
  | case8 c rest hquote _ hescape hcontrol found more hmore ih =>
    simp only [Option.some.injEq, Prod.mk.injEq] at h
    obtain ⟨rfl, rfl⟩ := h
    obtain ⟨body, hbody, rfl⟩ := ih hmore
    have hslash : c ≠ '\\' := by
      rintro rfl
      obtain ⟨e, more, hmore⟩ := List.exists_cons_of_ne_nil
        (List.append_ne_nil_of_right_ne_nil body (List.cons_ne_nil '"' more))
      exact hescape e more rfl hmore
    exact ⟨_, .plain (Char.not_lt.mp hcontrol) hquote hslash hbody, rfl⟩

theorem digits_of_digits? {t rest : Text} (h : digits? t = some rest) :
    ∃ ds, Digits ds ∧ t = ds ++ rest := by
  unfold digits? at h
  split at h
  · cases h
  · next hne =>
    obtain rfl := Option.some.inj h
    refine ⟨t.takeWhile Text.isDigit, ⟨hne, List.all_eq_true.mp List.all_takeWhile⟩, ?_⟩
    rw [List.takeWhile_append_dropWhile]

theorem whole_of_whole? {t rest : Text} (h : whole? t = some rest) :
    ∃ whole, Whole whole ∧ t = whole ++ rest := by
  unfold whole? at h
  split at h
  · obtain rfl := Option.some.inj h
    exact ⟨['0'], .inl rfl, rfl⟩
  · next hzero =>
    obtain ⟨ds, hds, rfl⟩ := digits_of_digits? h
    refine ⟨ds, .inr ⟨hds, fun hhead => ?_⟩, rfl⟩
    obtain ⟨ds', rfl⟩ := List.head?_eq_some_iff.mp hhead
    exact hzero _ rfl

theorem fraction_of_fraction? {t rest : Text} (h : fraction? t = some rest) :
    ∃ fraction, Fraction fraction ∧ t = fraction ++ rest := by
  unfold fraction? at h
  split at h
  · obtain ⟨ds, hds, rfl⟩ := digits_of_digits? h
    exact ⟨'.' :: ds, .inr ⟨ds, hds, rfl⟩, rfl⟩
  · obtain rfl := Option.some.inj h
    exact ⟨[], .inl rfl, rfl⟩

theorem exponent_of_exponent? {t rest : Text} (h : exponent? t = some rest) :
    ∃ exponent, Exponent exponent ∧ t = exponent ++ rest := by
  unfold exponent? at h
  split at h
  · next c more =>
    split_ifs at h with hc
    · have he : c ∈ ['e', 'E'] := by simpa using hc
      split at h
      · next s more' =>
        split_ifs at h with hs
        · obtain ⟨ds, hds, rfl⟩ := digits_of_digits? h
          have hsign : [s] ∈ [[], ['+'], ['-']] := by simpa using hs
          exact ⟨c :: ([s] ++ ds), .inr ⟨c, [s], ds, he, hsign, hds, rfl⟩, rfl⟩
        · obtain ⟨ds, hds, hmore⟩ := digits_of_digits? h
          refine ⟨c :: ([] ++ ds), .inr ⟨c, [], ds, he, by simp, hds, rfl⟩, ?_⟩
          rw [hmore]
          rfl
      · cases h
    · obtain rfl := Option.some.inj h
      exact ⟨[], .inl rfl, rfl⟩
  · obtain rfl := Option.some.inj h
    exact ⟨[], .inl rfl, rfl⟩

theorem number_of_isNumber {t : Text} (h : isNumber t = true) : Number t := by
  have hread := eq_of_beq h
  obtain ⟨rest₂, hread, hread₃⟩ := Option.bind_eq_some_iff.mp hread
  obtain ⟨rest₁, hread₁, hread₂⟩ := Option.bind_eq_some_iff.mp hread
  obtain ⟨exponent, hexponent, rfl⟩ := exponent_of_exponent? hread₃
  obtain ⟨fraction, hfraction, rfl⟩ := fraction_of_fraction? hread₂
  obtain ⟨whole, hwhole, hsplit⟩ := whole_of_whole? hread₁
  rw [List.append_nil] at hsplit
  by_cases hsign : ['-'] <+: t
  · obtain ⟨t, rfl⟩ := hsign
    rw [Text.dropStart_append] at hsplit
    rw [hsplit]
    exact .intro (.inr rfl) hwhole hfraction hexponent
  · rw [Text.dropStart, Text.after?_eq_none_iff.mpr hsign, Option.getD_none] at hsplit
    rw [hsplit]
    exact .intro (.inl rfl) hwhole hfraction hexponent

theorem spells_of_atom? {t : Text} {j : Json} (h : atom? t = some j) : Spells (.value j) t := by
  unfold atom? at h
  split_ifs at h with hnull htrue hfalse hnumber
  · obtain rfl := Option.some.inj h
    exact hnull ▸ .null
  · obtain rfl := Option.some.inj h
    exact htrue ▸ .true
  · obtain rfl := Option.some.inj h
    exact hfalse ▸ .false
  · obtain rfl := Option.some.inj h
    exact .number (number_of_isNumber hnumber)

/-- A token and the text that stands for it. -/
inductive Lexeme : Token → Text → Prop
  | openArray : Lexeme .openArray ['[']
  | closeArray : Lexeme .closeArray [']']
  | openObject : Lexeme .openObject ['{']
  | closeObject : Lexeme .closeObject ['}']
  | comma : Lexeme .comma [',']
  | colon : Lexeme .colon [':']
  | string {s : Option Text} {t : Text} (h : Literal s t) : Lexeme (.string s) t
  | atom {j : Json} {t : Text} (h : Spells (.value j) t) : Lexeme (.atom j) t

/-- A text as a row of tokens with blanks between them. -/
inductive Lexes : List Token → Text → Prop
  | done {gap : Text} (h : Gap gap) : Lexes [] gap
  | token {token : Token} {tokens : List Token} {gap t rest : Text} (hgap : Gap gap)
      (h : Lexeme token t) (hrest : Lexes tokens rest) :
      Lexes (token :: tokens) (gap ++ (t ++ rest))

theorem lexeme_of_punctuation? {c : Char} {token : Token} (h : punctuation? c = some token) :
    Lexeme token [c] := by
  unfold punctuation? at h
  split at h
  case h_7 => cases h
  all_goals
    obtain rfl := Option.some.inj h
    constructor

theorem mem_of_isGap {c : Char} (h : isGap c = true) : c ∈ [' ', '\t', '\n', '\r'] := by
  simp only [isGap, Bool.or_eq_true, decide_eq_true_eq] at h
  rcases h with ((rfl | rfl) | rfl) | rfl <;> decide

theorem Lexes.gap_cons {tokens : List Token} {t : Text} (h : Lexes tokens t) {c : Char}
    (hc : isGap c = true) : Lexes tokens (c :: t) := by
  have hgap {gap : Text} (hgap : Gap gap) : Gap (c :: gap) :=
    List.forall_mem_cons.mpr ⟨mem_of_isGap hc, hgap⟩
  cases h with
  | done hdone => exact .done (hgap hdone)
  | token hfront htoken hrest => exact .token (hgap hfront) htoken hrest

theorem lexes_of_tokens? {t : Text} {tokens : List Token} (h : tokens? t = some tokens) :
    Lexes tokens t := by
  have hfront {token : Token} {tokens : List Token} {t rest : Text} (htoken : Lexeme token t)
      (hrest : Lexes tokens rest) : Lexes (token :: tokens) (t ++ rest) :=
    .token gap_nil htoken hrest
  fun_induction tokens? t generalizing tokens with
  | case1 =>
    obtain rfl := Option.some.inj h
    exact .done gap_nil
  | case2 c rest hgap ih => exact (ih h).gap_cons hgap
  | case3 rest pieces after hbody _ ih =>
    obtain ⟨tokens', htokens, rfl⟩ := Option.map_eq_some_iff.mp h
    obtain ⟨body, hchars, rfl⟩ := chars_of_stringBody? hbody
    have hlexes := hfront (.string (.intro hchars)) (ih htokens)
    simpa using hlexes
  | case4 => cases h
  | case5 c rest _ _ token htoken ih =>
    obtain ⟨tokens', htokens, rfl⟩ := Option.map_eq_some_iff.mp h
    exact hfront (lexeme_of_punctuation? htoken) (ih htokens)
  | case6 c rest _ _ _ j hatom ih =>
    obtain ⟨tokens', htokens, rfl⟩ := Option.map_eq_some_iff.mp h
    have hlexes := hfront (.atom (spells_of_atom? hatom)) (ih htokens)
    rwa [List.cons_append, List.takeWhile_append_dropWhile] at hlexes
  | case7 => cases h

/-- The items of an open array, the last one first, each with the comma behind it. -/
inductive ItemsBefore : List Json → Text → Prop
  | nil : ItemsBefore [] []
  | item {j : Json} {done : List Json} {s t : Text} (hdone : ItemsBefore done s)
      (h : Spells (.text j) t) : ItemsBefore (j :: done) (s ++ (t ++ [',']))

inductive MembersBefore : List (Option Text × Json) → Text → Prop
  | nil : MembersBefore [] []
  | member {key : Option Text} {j : Json} {done : List (Option Text × Json)} {s t : Text}
      (hdone : MembersBefore done s) (h : Spells (.member key j) t) :
      MembersBefore ((key, j) :: done) (s ++ (t ++ [',']))

theorem ItemsBefore.spells {done : List Json} {s : Text} (h : ItemsBefore done s)
    {js : List Json} {t : Text} (hjs : Spells (.items js) t) :
    Spells (.items (done.reverse ++ js)) (s ++ t) := by
  induction h generalizing js t with
  | nil => exact hjs
  | item _ hj ih => simpa using ih (.items hj hjs)

theorem MembersBefore.spells {done : List (Option Text × Json)} {s : Text}
    (h : MembersBefore done s) {ms : List (Option Text × Json)} {t : Text}
    (hms : Spells (.members ms) t) : Spells (.members (done.reverse ++ ms)) (s ++ t) := by
  induction h generalizing ms t with
  | nil => exact hms
  | member _ hm ih => simpa using ih (.members hm hms)

/-- The frames are open behind the text, and a value of the innermost one is next. -/
inductive Opened : List Frame → Text → Prop
  | nil : Opened [] []
  | array {frames : List Frame} {items : List Json} {before gap s : Text}
      (h : Opened frames before) (hgap : Gap gap) (hitems : ItemsBefore items s) :
      Opened (.array items :: frames) (before ++ (gap ++ '[' :: s))
  | object {frames : List Frame} {members : List (Option Text × Json)} {key : Option Text}
      {before gap s front k back : Text} (h : Opened frames before) (hgap : Gap gap)
      (hmembers : MembersBefore members s) (hfront : Gap front) (hkey : Literal key k)
      (hback : Gap back) :
      Opened (.object members key :: frames)
        (before ++ (gap ++ '{' :: (s ++ (front ++ (k ++ (back ++ [':']))))))

/-- The reader is in the state behind the text. -/
inductive Reached : Mode → List Frame → Text → Prop
  | value {frames : List Frame} {before : Text} (h : Opened frames before) :
      Reached .value frames before
  | firstItem {frames : List Frame} {before gap : Text} (h : Opened frames before)
      (hgap : Gap gap) : Reached .firstItem (.array [] :: frames) (before ++ (gap ++ ['[']))
  | firstKey {frames : List Frame} {before gap : Text} (h : Opened frames before)
      (hgap : Gap gap) : Reached .firstKey frames (before ++ (gap ++ ['{']))
  | key {frames : List Frame} {members : List (Option Text × Json)} {before gap s : Text}
      (h : Opened frames before) (hgap : Gap gap) (hmembers : MembersBefore members s) :
      Reached (.key members) frames (before ++ (gap ++ '{' :: s))
  | colon {frames : List Frame} {members : List (Option Text × Json)} {key : Option Text}
      {before gap s front k : Text} (h : Opened frames before) (hgap : Gap gap)
      (hmembers : MembersBefore members s) (hfront : Gap front) (hkey : Literal key k) :
      Reached (.colon members key) frames (before ++ (gap ++ '{' :: (s ++ (front ++ k))))
  | ended {frames : List Frame} {j : Json} {before gap t : Text} (h : Opened frames before)
      (hgap : Gap gap) (hvalue : Spells (.value j) t) :
      Reached (.ended j) frames (before ++ (gap ++ t))

theorem Opened.startValue {frames frames' : List Frame} {before : Text} (h : Opened frames before)
    {token : Token} {mode : Mode} (hstart : startValue frames token = some (mode, frames'))
    {gap t : Text} (hgap : Gap gap) (ht : Lexeme token t) :
    Reached mode frames' (before ++ (gap ++ t)) := by
  cases ht with
  | openArray =>
    cases hstart
    exact .firstItem h hgap
  | openObject =>
    cases hstart
    exact .firstKey h hgap
  | string hliteral =>
    cases hstart
    exact .ended h hgap (.string hliteral)
  | atom hvalue =>
    cases hstart
    exact .ended h hgap hvalue
  | closeArray | closeObject | comma | colon => cases hstart

theorem Opened.close {frames : List Frame} {frame : Frame} {before : Text}
    (h : Opened (frame :: frames) before) {j : Json} {t : Text} (ht : Spells (.text j) t)
    {token : Token} {mode : Mode} {frames' : List Frame}
    (hstep : step (.ended j) (frame :: frames) token = some (mode, frames'))
    {u : Text} (hu : Lexeme token u) : Reached mode frames' (before ++ (t ++ u)) := by
  cases h with
  | @array _ items before gap s h hgap hitems =>
    cases hu with
    | comma =>
      cases hstep
      have hopened := Opened.array h hgap (hitems.item ht)
      simpa using Reached.value hopened
    | closeArray =>
      cases hstep
      have hended := Reached.ended h hgap (.array (hitems.spells (.lastItem ht)))
      simpa using hended
    | openArray | openObject | closeObject | colon | string _ | atom _ => cases hstep
  | @object _ members key before gap s front k back h hgap hmembers hfront hkey hback =>
    have hmember := Spells.member hfront hkey hback ht
    cases hu with
    | comma =>
      cases hstep
      have hkey := Reached.key h hgap (hmembers.member hmember)
      simpa using hkey
    | closeObject =>
      cases hstep
      have hended := Reached.ended h hgap (.object (hmembers.spells (.lastMember hmember)))
      simpa using hended
    | openArray | openObject | closeArray | colon | string _ | atom _ => cases hstep

theorem Reached.step {mode mode' : Mode} {frames frames' : List Frame} {before : Text}
    (h : Reached mode frames before) {token : Token}
    (hstep : step mode frames token = some (mode', frames')) {gap t : Text} (hgap : Gap gap)
    (ht : Lexeme token t) : Reached mode' frames' (before ++ (gap ++ t)) := by
  cases h with
  | value h => exact h.startValue hstep hgap ht
  | @firstItem frames before front h hfront =>
    by_cases htoken : token = .closeArray
    · subst htoken
      cases ht
      cases hstep
      simpa using Reached.ended h hfront (.noItems hgap)
    · rw [Mode.TakesValue.step (.inr rfl) htoken] at hstep
      exact (Opened.array h hfront .nil).startValue hstep hgap ht
  | @firstKey frames before front h hfront =>
    cases ht with
    | closeObject =>
      cases hstep
      simpa using Reached.ended h hfront (.noMembers hgap)
    | string hliteral =>
      cases hstep
      simpa using Reached.colon h hfront .nil hgap hliteral
    | openArray | closeArray | openObject | comma | colon | atom _ => cases hstep
  | @key frames members before front s h hfront hmembers =>
    cases ht with
    | string hliteral =>
      cases hstep
      simpa using Reached.colon h hfront hmembers hgap hliteral
    | openArray | closeArray | openObject | closeObject | comma | colon | atom _ => cases hstep
  | colon h hfront hmembers hback hkey =>
    cases ht with
    | colon =>
      cases hstep
      simpa using Reached.value (.object h hfront hmembers hback hkey hgap)
    | openArray | closeArray | openObject | closeObject | comma | string _ | atom _ => cases hstep
  | @ended frames j before front v h hfront hvalue =>
    -- The blanks in front of the token belong to the value that has just ended.
    cases frames with
    | nil => cases ht <;> cases hstep
    | cons frame frames => simpa using h.close (.text hfront hvalue hgap) hstep ht

theorem spells_of_ofTokens? {mode : Mode} {frames : List Frame} {before : Text}
    (h : Reached mode frames before) {tokens : List Token} {t : Text} (ht : Lexes tokens t)
    {j : Json} (hrun : ofTokens? mode frames tokens = some j) :
    Spells (.text j) (before ++ t) := by
  induction ht generalizing mode frames before with
  | done hgap =>
    cases h with
    | ended hopened hfront hvalue =>
      cases hopened with
      | nil =>
        obtain rfl := Option.some.inj hrun
        rw [List.nil_append, List.append_assoc]
        exact .text hfront hvalue hgap
      | array | object => cases hrun
    | value | firstItem | firstKey | key | colon => cases hrun
  | token hgap htoken _ ih =>
    rw [ofTokens?] at hrun
    split at hrun
    · next hstep => simpa using ih (h.step hstep hgap htoken) hrun
    · cases hrun

theorem parse?_eq_some_iff {t : Text} {j : Json} : parse? t = some j ↔ Spells (.text j) t := by
  constructor
  · intro h
    obtain ⟨tokens, htokens, hrun⟩ := Option.bind_eq_some_iff.mp h
    exact spells_of_ofTokens? (.value .nil) (lexes_of_tokens? htokens) hrun
  · exact Spells.parse?

end StyleGuide.Json
