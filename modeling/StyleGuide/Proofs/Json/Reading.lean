import StyleGuide.Proofs.Json.Grammar
import StyleGuide.Proofs.Text.Search

namespace StyleGuide.Json

theorem hexValue?_of_isHex {c : Char} {n : Nat} (h : IsHex c n) : hexValue? c = some n := by
  obtain ⟨hn, hc⟩ := h
  have hlower : ∀ n < 16, hexValue? (Nat.digitChar n) = some n := by decide
  have hupper : ∀ n < 16, hexValue? (Nat.digitChar n).toUpper = some n := by decide
  rcases hc with rfl | rfl
  · exact hlower n hn
  · exact hupper n hn

theorem hex4?_of_isHex {a b c d : Char} {w x y z : Nat} (ha : IsHex a w) (hb : IsHex b x)
    (hc : IsHex c y) (hd : IsHex d z) :
    hex4? a b c d = some (((w * 16 + x) * 16 + y) * 16 + z) := by
  rw [hex4?, hexValue?_of_isHex ha, hexValue?_of_isHex hb, hexValue?_of_isHex hc,
    hexValue?_of_isHex hd]

theorem unescape?_of_mem {e c : Char} (h : (e, c) ∈ shortEscapes) :
    e ≠ 'u' ∧ unescape? e = some c := by
  have hall : ∀ p ∈ shortEscapes, p.1 ≠ 'u' ∧ unescape? p.1 = some p.2 := by decide
  exact hall (e, c) h

theorem stringBody?_append {pieces : List Piece} {t : Text} (h : Chars pieces t) (rest : Text) :
    stringBody? (t ++ '"' :: rest) = some (pieces, rest) := by
  induction h with
  | nil => rw [List.nil_append, stringBody?]
  | @plain c pieces t hc hquote hescape _ ih =>
    rw [List.cons_append, stringBody?, if_neg (Char.not_lt.mpr hc), ih]
    · exact hquote
    · intro a b c d rest hc
      exact absurd hc hescape
    · intro e rest hc
      exact absurd hc hescape
  | @short e c pieces t he _ ih =>
    obtain ⟨hne, hc⟩ := unescape?_of_mem he
    rw [List.cons_append, List.cons_append, stringBody?, hc, ih]
    intro a b c d rest he
    exact absurd he hne
  | code ha hb hc hd _ ih =>
    simp only [List.cons_append]
    rw [stringBody?, hex4?_of_isHex ha hb hc hd, ih]

theorem span_append {p : Char → Bool} {front rest : Text} (hfront : ∀ c ∈ front, p c = true)
    (hrest : ∀ c ∈ rest.head?, p c = false) :
    (front ++ rest).takeWhile p = front ∧ (front ++ rest).dropWhile p = rest := by
  rw [List.takeWhile_append_of_pos hfront, List.dropWhile_append_of_pos hfront]
  cases rest with
  | nil => simp
  | cons c rest => simp [hrest c rfl]

theorem digits?_append {ds rest : Text} (h : Digits ds)
    (hrest : ∀ c ∈ rest.head?, Text.isDigit c = false) : digits? (ds ++ rest) = some rest := by
  obtain ⟨hne, hds⟩ := h
  obtain ⟨htake, hdrop⟩ := span_append hds hrest
  rw [digits?, htake, hdrop]
  split
  · contradiction
  · rfl

theorem whole?_append {whole rest : Text} (h : Whole whole)
    (hrest : ∀ c ∈ rest.head?, Text.isDigit c = false) : whole? (whole ++ rest) = some rest := by
  rcases h with rfl | ⟨hdigits, hzero⟩
  · rfl
  · rw [whole?]
    · exact digits?_append hdigits hrest
    · intro more hmore
      obtain ⟨d, ds, rfl⟩ := List.exists_cons_of_ne_nil hdigits.1
      obtain ⟨rfl, _⟩ := List.cons.inj hmore
      exact hzero rfl

theorem fraction?_append {fraction rest : Text} (h : Fraction fraction)
    (hrest : ∀ c ∈ rest.head?, c ≠ '.' ∧ Text.isDigit c = false) :
    fraction? (fraction ++ rest) = some rest := by
  rcases h with rfl | ⟨ds, hds, rfl⟩
  · rw [List.nil_append, fraction?]
    rintro more rfl
    exact (hrest '.' rfl).1 rfl
  · rw [List.cons_append, fraction?]
    exact digits?_append hds fun c hc => (hrest c hc).2

theorem exponent?_eq {exponent : Text} (h : Exponent exponent) :
    exponent? exponent = some [] := by
  rcases h with rfl | ⟨e, sign, ds, he, hsign, hds, rfl⟩
  · rfl
  · have hdigits : digits? ds = some [] := by
      have hend := digits?_append hds (by simp : ∀ c ∈ ([] : Text).head?, _)
      rwa [List.append_nil] at hend
    have he : e = 'e' ∨ e = 'E' := by simpa using he
    simp only [List.mem_cons, List.not_mem_nil, or_false] at hsign
    rcases hsign with rfl | rfl | rfl
    · obtain ⟨d, ds, rfl⟩ := List.exists_cons_of_ne_nil hds.1
      have hunsigned : ¬ (d = '+' ∨ d = '-') := by
        have hd := hds.2 d List.mem_cons_self
        rintro (rfl | rfl) <;> exact absurd hd (by decide)
      simp only [List.nil_append, exponent?, if_pos he, if_neg hunsigned]
      exact hdigits
    · simp only [List.singleton_append, exponent?, if_pos he]
      exact hdigits
    · simp only [List.singleton_append, exponent?, if_pos he]
      exact hdigits

theorem Whole.exists_cons {whole : Text} (h : Whole whole) :
    ∃ d ds, whole = d :: ds ∧ Text.isDigit d = true := by
  rcases h with rfl | ⟨hdigits, _⟩
  · exact ⟨'0', [], rfl, by decide⟩
  · obtain ⟨d, ds, rfl⟩ := List.exists_cons_of_ne_nil hdigits.1
    exact ⟨d, ds, rfl, hdigits.2 d List.mem_cons_self⟩

theorem isNumber_of_number {t : Text} (h : Number t) : isNumber t = true := by
  obtain @⟨sign, whole, fraction, exponent, hsign, hwhole, hfraction, hexponent⟩ := h
  have hback : ∀ c ∈ exponent.head?, c ≠ '.' ∧ Text.isDigit c = false := by
    rcases hexponent with rfl | ⟨e, sign, ds, he, _, _, rfl⟩
    · simp
    · have hletter : ∀ c ∈ ['e', 'E'], c ≠ '.' ∧ Text.isDigit c = false := by
        simp [Text.isDigit]
      rintro c ⟨⟩
      exact hletter e he
  have hrest : ∀ c ∈ (fraction ++ exponent).head?, Text.isDigit c = false := by
    rcases hfraction with rfl | ⟨ds, _, rfl⟩
    · exact fun c hc => (hback c hc).2
    · rintro c ⟨⟩
      decide
  have hsigned : Text.dropStart ['-'] (sign ++ (whole ++ (fraction ++ exponent))) =
      whole ++ (fraction ++ exponent) := by
    rcases hsign with rfl | rfl
    · obtain ⟨d, ds, rfl, hd⟩ := hwhole.exists_cons
      have hsign : ¬ ['-'] <+: [] ++ (d :: ds ++ (fraction ++ exponent)) := by
        rintro ⟨rest, hfront⟩
        obtain ⟨rfl, _⟩ := List.cons.inj hfront
        exact absurd hd (by decide)
      rw [Text.dropStart, Text.after?_eq_none_iff.mpr hsign, Option.getD_none, List.nil_append]
    · exact Text.dropStart_append ['-'] _
  rw [isNumber, hsigned, whole?_append hwhole hrest, Option.bind_some,
    fraction?_append hfraction hback, Option.bind_some, exponent?_eq hexponent]
  rfl

/-- A name or a number ends before the text. -/
def Stops (t : Text) : Prop := ∀ c ∈ t.head?, endsAtom c = true

theorem mem_of_endsAtom {c : Char} (h : endsAtom c = true) :
    c ∈ [' ', '\n', '\r', '\t', '[', ']', '{', '}', ',', ':', '"'] := by
  simpa [endsAtom, isGap, or_assoc] using h

theorem endsAtom_of_isDigit {c : Char} (h : Text.isDigit c = true) : endsAtom c = false := by
  have hnone : ∀ c ∈ [' ', '\n', '\r', '\t', '[', ']', '{', '}', ',', ':', '"'],
      Text.isDigit c = false := by simp [Text.isDigit]
  rw [Bool.eq_false_iff]
  intro hends
  rw [hnone c (mem_of_endsAtom hends)] at h
  exact Bool.false_ne_true h

theorem Number.endsAtom {t : Text} (h : Number t) : ∀ c ∈ t, endsAtom c = false := by
  obtain @⟨sign, whole, fraction, exponent, hsign, hwhole, hfraction, hexponent⟩ := h
  have hdigits : ∀ {ds}, Digits ds → ∀ c ∈ ds, Json.endsAtom c = false :=
    fun hds c hc => endsAtom_of_isDigit (hds.2 c hc)
  have hmarks : ∀ c ∈ ['+', '-', '.', 'e', 'E'], Json.endsAtom c = false := by
    simp [Json.endsAtom, isGap]
  simp only [List.forall_mem_append]
  refine ⟨?_, ?_, ?_, ?_⟩
  · rcases hsign with rfl | rfl
    · simp
    · exact List.forall_mem_singleton.mpr (hmarks '-' (by decide))
  · rcases hwhole with rfl | ⟨hwhole, _⟩
    · exact hdigits ⟨by simp, by simp [Text.isDigit]⟩
    · exact hdigits hwhole
  · rcases hfraction with rfl | ⟨ds, hds, rfl⟩
    · simp
    · exact List.forall_mem_cons.mpr ⟨hmarks '.' (by decide), hdigits hds⟩
  · rcases hexponent with rfl | ⟨e, sign, ds, he, hsign, hds, rfl⟩
    · simp
    · have hsign : ∀ c ∈ sign, c ∈ ['+', '-', '.', 'e', 'E'] := by
        simp only [List.mem_cons, List.not_mem_nil, or_false] at hsign
        rcases hsign with rfl | rfl | rfl <;> simp
      have he : e ∈ ['+', '-', '.', 'e', 'E'] := List.mem_of_mem_drop (i := 3) he
      rw [List.forall_mem_cons, List.forall_mem_append]
      exact ⟨hmarks e he, fun c hc => hmarks c (hsign c hc), hdigits hds⟩

theorem atom?_number {t : Text} (h : Number t) : atom? t = some (.number t) := by
  have hnumber := isNumber_of_number h
  have hname : ∀ name ∈ [['n', 'u', 'l', 'l'], ['t', 'r', 'u', 'e'], ['f', 'a', 'l', 's', 'e']],
      t ≠ name := by
    have hnone : ∀ name ∈
        [['n', 'u', 'l', 'l'], ['t', 'r', 'u', 'e'], ['f', 'a', 'l', 's', 'e']],
        isNumber name = false := by decide
    rintro _ hname rfl
    rw [hnone t hname] at hnumber
    exact Bool.false_ne_true hnumber
  rw [atom?, if_neg (hname _ (by decide)), if_neg (hname _ (by decide)),
    if_neg (hname _ (by decide)), if_pos hnumber]

theorem isGap_of_mem {c : Char} (h : c ∈ [' ', '\t', '\n', '\r']) : isGap c = true := by
  have hall : ∀ c ∈ [' ', '\t', '\n', '\r'], isGap c = true := by simp [isGap]
  exact hall c h

theorem tokens?_gap {gap : Text} (h : Gap gap) (rest : Text) :
    tokens? (gap ++ rest) = tokens? rest := by
  induction gap with
  | nil => rfl
  | cons c gap ih =>
    rw [List.cons_append, tokens?, if_pos (isGap_of_mem (h c List.mem_cons_self))]
    exact ih fun d hd => h d (List.mem_cons_of_mem _ hd)

theorem tokens?_literal {s : Option Text} {t : Text} (h : Literal s t) (rest : Text) :
    tokens? (t ++ rest) = (tokens? rest).map (.string s :: ·) := by
  obtain @⟨pieces, body, hbody⟩ := h
  have hread := stringBody?_append hbody rest
  have happend : '"' :: (body ++ ['"']) ++ rest = '"' :: (body ++ '"' :: rest) := by simp
  rw [happend, tokens?, if_neg (by decide), if_pos rfl]
  split
  · next found after hfound =>
    rw [hread] at hfound
    obtain ⟨rfl, rfl⟩ := Prod.mk.inj (Option.some.inj hfound)
    rfl
  · next hnone =>
    rw [hread] at hnone
    contradiction

theorem tokens?_punctuation {c : Char} {token : Token} (h : punctuation? c = some token)
    (rest : Text) : tokens? (c :: rest) = (tokens? rest).map (token :: ·) := by
  have hother : isGap c = false ∧ c ≠ '"' := by
    unfold punctuation? at h
    split at h
    case h_7 => contradiction
    all_goals decide
  rw [tokens?, hother.1, if_neg Bool.false_ne_true, if_neg hother.2, h]

theorem of_endsAtom_eq_false {c : Char} (h : endsAtom c = false) :
    isGap c = false ∧ c ≠ '"' ∧ punctuation? c = none := by
  simp only [endsAtom, Bool.or_eq_false_iff, decide_eq_false_iff_not] at h
  obtain ⟨⟨⟨⟨⟨⟨⟨hgap, h₁⟩, h₂⟩, h₃⟩, h₄⟩, h₅⟩, h₆⟩, hquote⟩ := h
  refine ⟨hgap, hquote, ?_⟩
  unfold punctuation?
  split
  case h_7 => rfl
  all_goals contradiction

theorem tokens?_atom {t rest : Text} {j : Json} (hatom : atom? t = some j)
    (ht : ∀ c ∈ t, endsAtom c = false) (hrest : Stops rest) :
    tokens? (t ++ rest) = (tokens? rest).map (.atom j :: ·) := by
  cases t with
  | nil => contradiction
  | cons c t =>
    obtain ⟨hc, ht⟩ := List.forall_mem_cons.mp ht
    obtain ⟨hgap, hquote, hpunctuation⟩ := of_endsAtom_eq_false hc
    have hinside : ∀ d ∈ t, (!endsAtom d) = true := by simpa using ht
    have hbehind : ∀ d ∈ rest.head?, (!endsAtom d) = false := by simpa [Stops] using hrest
    obtain ⟨htake, hdrop⟩ := span_append hinside hbehind
    rw [List.cons_append, tokens?, hgap, if_neg Bool.false_ne_true, if_neg hquote, hpunctuation]
    simp only
    rw [htake, hdrop, hatom]

/-- Reads on from a state. -/
def read? (mode : Mode) (frames : List Frame) (t : Text) : Option Json :=
  (tokens? t).bind (ofTokens? mode frames)

theorem read?_gap {gap : Text} (h : Gap gap) (mode : Mode) (frames : List Frame) (rest : Text) :
    read? mode frames (gap ++ rest) = read? mode frames rest := by
  rw [read?, tokens?_gap h, read?]

theorem read?_token {t rest : Text} {token : Token} {mode mode' : Mode}
    {frames frames' : List Frame} (h : tokens? t = (tokens? rest).map (token :: ·))
    (hstep : step mode frames token = some (mode', frames')) :
    read? mode frames t = read? mode' frames' rest := by
  have hnext : ∀ tokens, ofTokens? mode frames (token :: tokens) =
      ofTokens? mode' frames' tokens := by
    intro tokens
    rw [ofTokens?, hstep]
  rw [read?, h, Option.bind_map, read?]
  congr 1
  funext tokens
  exact hnext tokens

theorem read?_mark {c : Char} {rest : Text} {token : Token} {mode mode' : Mode}
    {frames frames' : List Frame} (h : punctuation? c = some token)
    (hstep : step mode frames token = some (mode', frames')) :
    read? mode frames (c :: rest) = read? mode' frames' rest :=
  read?_token (tokens?_punctuation h rest) hstep

def Mode.TakesValue (mode : Mode) : Prop := mode = .value ∨ mode = .firstItem

def Mode.TakesKey (mode : Mode) (done : List (Option Text × Json)) : Prop :=
  mode = .key done ∨ mode = .firstKey ∧ done = []

theorem Mode.TakesValue.step {mode : Mode} (h : mode.TakesValue) {token : Token}
    (htoken : token ≠ .closeArray) (frames : List Frame) :
    step mode frames token = startValue frames token := by
  rcases h with rfl | rfl
  · rfl
  · rw [Json.step]
    intro _ _ _ hclose
    contradiction

theorem Mode.TakesKey.step {mode : Mode} {done : List (Option Text × Json)}
    (h : mode.TakesKey done) (key : Option Text) (frames : List Frame) :
    step mode frames (.string key) = some (.colon done key, frames) := by
  rcases h with rfl | ⟨rfl, rfl⟩ <;> rfl

/-- The reader comes out behind the part with what it stands for. -/
def Part.Read : Part → Text → Prop
  | value j, t | text j, t => ∀ mode frames rest, mode.TakesValue → Stops rest →
    read? mode frames (t ++ rest) = read? (.ended j) frames rest
  | items js, t => ∀ mode done frames rest, mode.TakesValue →
    read? mode (.array done :: frames) (t ++ ']' :: rest) =
      read? (.ended (.array (done.reverse ++ js))) frames rest
  | member key j, t => ∀ mode done frames rest, mode.TakesKey done → Stops rest →
    read? mode frames (t ++ rest) = read? (.ended j) (.object done key :: frames) rest
  | members ms, t => ∀ mode done frames rest, mode.TakesKey done →
    read? mode frames (t ++ '}' :: rest) =
      read? (.ended (.object (done.reverse ++ ms))) frames rest

theorem read_atom {j : Json} {t : Text} (hatom : atom? t = some j)
    (ht : ∀ c ∈ t, endsAtom c = false) : (Part.value j).Read t := by
  intro mode frames rest hmode hrest
  apply read?_token (tokens?_atom hatom ht hrest)
  rw [hmode.step (by simp), startValue]

theorem stops_cons {c : Char} {rest : Text} (h : endsAtom c = true) : Stops (c :: rest) := by
  rintro d ⟨⟩
  exact h

theorem Stops.gap_append {gap rest : Text} (hrest : Stops rest) (h : Gap gap) :
    Stops (gap ++ rest) := by
  cases gap with
  | nil => exact hrest
  | cons d gap =>
    have hall : ∀ c ∈ [' ', '\t', '\n', '\r'], endsAtom c = true := by simp [endsAtom, isGap]
    exact stops_cons (hall d (h d List.mem_cons_self))

theorem Spells.read {part : Part} {t : Text} (h : Spells part t) : part.Read t := by
  induction h with
  | null => exact read_atom rfl (by simp [endsAtom, isGap])
  | true => exact read_atom rfl (by simp [endsAtom, isGap])
  | false => exact read_atom rfl (by simp [endsAtom, isGap])
  | number h => exact read_atom (atom?_number h) h.endsAtom
  | string h =>
    intro mode frames rest hmode _
    apply read?_token (tokens?_literal h rest)
    rw [hmode.step (by simp), startValue]
  | @noItems gap h =>
    intro mode frames rest hmode _
    calc read? mode frames ('[' :: (gap ++ [']']) ++ rest)
        = read? mode frames ('[' :: (gap ++ ']' :: rest)) := by simp
      _ = read? .firstItem (.array [] :: frames) (gap ++ ']' :: rest) :=
        read?_mark rfl (hmode.step (by simp) _)
      _ = read? .firstItem (.array [] :: frames) (']' :: rest) := read?_gap h _ _ _
      _ = read? (.ended (.array [])) frames rest := read?_mark rfl rfl
  | @array js t _ ih =>
    intro mode frames rest hmode _
    calc read? mode frames ('[' :: (t ++ [']']) ++ rest)
        = read? mode frames ('[' :: (t ++ ']' :: rest)) := by simp
      _ = read? .firstItem (.array [] :: frames) (t ++ ']' :: rest) :=
        read?_mark rfl (hmode.step (by simp) _)
      _ = read? (.ended (.array js)) frames rest := ih _ [] _ _ (.inr rfl)
  | @noMembers gap h =>
    intro mode frames rest hmode _
    calc read? mode frames ('{' :: (gap ++ ['}']) ++ rest)
        = read? mode frames ('{' :: (gap ++ '}' :: rest)) := by simp
      _ = read? .firstKey frames (gap ++ '}' :: rest) :=
        read?_mark rfl (hmode.step (by simp) _)
      _ = read? .firstKey frames ('}' :: rest) := read?_gap h _ _ _
      _ = read? (.ended (.object [])) frames rest := read?_mark rfl rfl
  | @object ms t _ ih =>
    intro mode frames rest hmode _
    calc read? mode frames ('{' :: (t ++ ['}']) ++ rest)
        = read? mode frames ('{' :: (t ++ '}' :: rest)) := by simp
      _ = read? .firstKey frames (t ++ '}' :: rest) :=
        read?_mark rfl (hmode.step (by simp) _)
      _ = read? (.ended (.object ms)) frames rest := ih _ [] _ _ (.inr ⟨rfl, rfl⟩)
  | @text j front t back hfront _ hback ih =>
    intro mode frames rest hmode hrest
    calc read? mode frames (front ++ (t ++ back) ++ rest)
        = read? mode frames (front ++ (t ++ (back ++ rest))) := by simp
      _ = read? mode frames (t ++ (back ++ rest)) := read?_gap hfront _ _ _
      _ = read? (.ended j) frames (back ++ rest) := ih _ _ _ hmode (hrest.gap_append hback)
      _ = read? (.ended j) frames rest := read?_gap hback _ _ _
  | @lastItem j t _ ih =>
    intro mode done frames rest hmode
    calc read? mode (.array done :: frames) (t ++ ']' :: rest)
        = read? (.ended j) (.array done :: frames) (']' :: rest) := ih _ _ _ hmode (stops_cons rfl)
      _ = read? (.ended (.array (j :: done).reverse)) frames rest :=
        read?_mark rfl rfl
      _ = read? (.ended (.array (done.reverse ++ [j]))) frames rest := by rw [List.reverse_cons]
  | @items j js t ts _ _ ih ihs =>
    intro mode done frames rest hmode
    calc read? mode (.array done :: frames) (t ++ ',' :: ts ++ ']' :: rest)
        = read? mode (.array done :: frames) (t ++ ',' :: (ts ++ ']' :: rest)) := by simp
      _ = read? (.ended j) (.array done :: frames) (',' :: (ts ++ ']' :: rest)) :=
        ih _ _ _ hmode (stops_cons rfl)
      _ = read? .value (.array (j :: done) :: frames) (ts ++ ']' :: rest) :=
        read?_mark rfl rfl
      _ = read? (.ended (.array ((j :: done).reverse ++ js))) frames rest := ihs _ _ _ _ (.inl rfl)
      _ = read? (.ended (.array (done.reverse ++ j :: js))) frames rest := by simp
  | @member key j front k back t hfront hkey hback _ ih =>
    intro mode done frames rest hmode hrest
    calc read? mode frames (front ++ (k ++ (back ++ ':' :: t)) ++ rest)
        = read? mode frames (front ++ (k ++ (back ++ ':' :: (t ++ rest)))) := by simp
      _ = read? mode frames (k ++ (back ++ ':' :: (t ++ rest))) := read?_gap hfront _ _ _
      _ = read? (.colon done key) frames (back ++ ':' :: (t ++ rest)) :=
        read?_token (tokens?_literal hkey _) (hmode.step key frames)
      _ = read? (.colon done key) frames (':' :: (t ++ rest)) := read?_gap hback _ _ _
      _ = read? .value (.object done key :: frames) (t ++ rest) :=
        read?_mark rfl rfl
      _ = read? (.ended j) (.object done key :: frames) rest := ih _ _ _ (.inl rfl) hrest
  | @lastMember key j t _ ih =>
    intro mode done frames rest hmode
    calc read? mode frames (t ++ '}' :: rest)
        = read? (.ended j) (.object done key :: frames) ('}' :: rest) :=
        ih _ _ _ _ hmode (stops_cons rfl)
      _ = read? (.ended (.object ((key, j) :: done).reverse)) frames rest :=
        read?_mark rfl rfl
      _ = read? (.ended (.object (done.reverse ++ [(key, j)]))) frames rest := by
        rw [List.reverse_cons]
  | @members key j ms t ts _ _ ih ihs =>
    intro mode done frames rest hmode
    calc read? mode frames (t ++ ',' :: ts ++ '}' :: rest)
        = read? mode frames (t ++ ',' :: (ts ++ '}' :: rest)) := by simp
      _ = read? (.ended j) (.object done key :: frames) (',' :: (ts ++ '}' :: rest)) :=
        ih _ _ _ _ hmode (stops_cons rfl)
      _ = read? (.key ((key, j) :: done)) frames (ts ++ '}' :: rest) :=
        read?_mark rfl rfl
      _ = read? (.ended (.object (((key, j) :: done).reverse ++ ms))) frames rest :=
        ihs _ _ _ _ (.inl rfl)
      _ = read? (.ended (.object (done.reverse ++ (key, j) :: ms))) frames rest := by simp

theorem Spells.parse? {j : Json} {t : Text} (h : Spells (.text j) t) : parse? t = some j := by
  have hread := h.read .value [] [] (.inl rfl) (by simp [Stops])
  rw [List.append_nil] at hread
  calc Json.parse? t = read? .value [] t := rfl
    _ = read? (.ended j) [] [] := hread
    _ = some j := by rw [read?, tokens?]; rfl

end StyleGuide.Json
