import StyleGuide.Json.Printer
import StyleGuide.Json.Reader

namespace StyleGuide.Json

def Gap (t : Text) : Prop := ∀ c ∈ t, c ∈ [' ', '\t', '\n', '\r']

def Digits (t : Text) : Prop := t ≠ [] ∧ ∀ c ∈ t, Text.isDigit c = true

def Whole (t : Text) : Prop := t = ['0'] ∨ Digits t ∧ t.head? ≠ some '0'

def Fraction (t : Text) : Prop := t = [] ∨ ∃ ds, Digits ds ∧ t = '.' :: ds

def Exponent (t : Text) : Prop :=
  t = [] ∨ ∃ e sign ds, e ∈ ['e', 'E'] ∧ sign ∈ [[], ['+'], ['-']] ∧ Digits ds ∧
    t = e :: (sign ++ ds)

inductive Number : Text → Prop
  | intro {sign whole fraction exponent : Text} (hsign : sign = [] ∨ sign = ['-'])
      (hwhole : Whole whole) (hfraction : Fraction fraction) (hexponent : Exponent exponent) :
      Number (sign ++ (whole ++ (fraction ++ exponent)))

/-- The letters that may follow a backslash, with what they stand for there. -/
def shortEscapes : List (Char × Char) :=
  [('"', '"'), ('\\', '\\'), ('/', '/'), ('b', '\x08'), ('f', '\x0c'), ('n', '\n'), ('r', '\r'),
    ('t', '\t')]

/-- A hexadecimal digit, in lower or in upper case, and its value. -/
def IsHex (c : Char) (n : Nat) : Prop :=
  n < 16 ∧ (c = Nat.digitChar n ∨ c = (Nat.digitChar n).toUpper)

/-- What stands between the quotes of a string literal. -/
inductive Chars : List Piece → Text → Prop
  | nil : Chars [] []
  | plain {c : Char} {pieces : List Piece} {t : Text} (hc : ' ' ≤ c) (hquote : c ≠ '"')
      (hescape : c ≠ '\\') (h : Chars pieces t) : Chars (.char c :: pieces) (c :: t)
  | short {e c : Char} {pieces : List Piece} {t : Text} (he : (e, c) ∈ shortEscapes)
      (h : Chars pieces t) : Chars (.char c :: pieces) ('\\' :: e :: t)
  | code {a b c d : Char} {w x y z : Nat} {pieces : List Piece} {t : Text} (ha : IsHex a w)
      (hb : IsHex b x) (hc : IsHex c y) (hd : IsHex d z) (h : Chars pieces t) :
      Chars (.code (((w * 16 + x) * 16 + y) * 16 + z) :: pieces)
        ('\\' :: 'u' :: a :: b :: c :: d :: t)

inductive Literal : Option Text → Text → Prop
  | intro {pieces : List Piece} {t : Text} (h : Chars pieces t) :
      Literal (spell? pieces) ('"' :: (t ++ ['"']))

/-- The parts of a JSON text, with what they stand for. -/
inductive Part where
  | value (j : Json)
  /-- A value with the blanks around it. -/
  | text (j : Json)
  | items (js : List Json)
  | member (key : Option Text) (j : Json)
  | members (ms : List (Option Text × Json))

/-- The grammar of JSON texts. -/
inductive Spells : Part → Text → Prop
  | null : Spells (.value .null) ['n', 'u', 'l', 'l']
  | true : Spells (.value (.bool true)) ['t', 'r', 'u', 'e']
  | false : Spells (.value (.bool false)) ['f', 'a', 'l', 's', 'e']
  | number {t : Text} (h : Number t) : Spells (.value (.number t)) t
  | string {s : Option Text} {t : Text} (h : Literal s t) : Spells (.value (.string s)) t
  | noItems {gap : Text} (h : Gap gap) : Spells (.value (.array [])) ('[' :: (gap ++ [']']))
  | array {js : List Json} {t : Text} (h : Spells (.items js) t) :
      Spells (.value (.array js)) ('[' :: (t ++ [']']))
  | noMembers {gap : Text} (h : Gap gap) : Spells (.value (.object [])) ('{' :: (gap ++ ['}']))
  | object {ms : List (Option Text × Json)} {t : Text} (h : Spells (.members ms) t) :
      Spells (.value (.object ms)) ('{' :: (t ++ ['}']))
  | text {j : Json} {front t back : Text} (hfront : Gap front) (h : Spells (.value j) t)
      (hback : Gap back) : Spells (.text j) (front ++ (t ++ back))
  | lastItem {j : Json} {t : Text} (h : Spells (.text j) t) : Spells (.items [j]) t
  | items {j : Json} {js : List Json} {t ts : Text} (h : Spells (.text j) t)
      (hs : Spells (.items js) ts) : Spells (.items (j :: js)) (t ++ ',' :: ts)
  | member {key : Option Text} {j : Json} {front k back t : Text} (hfront : Gap front)
      (hkey : Literal key k) (hback : Gap back) (h : Spells (.text j) t) :
      Spells (.member key j) (front ++ (k ++ (back ++ ':' :: t)))
  | lastMember {key : Option Text} {j : Json} {t : Text} (h : Spells (.member key j) t) :
      Spells (.members [(key, j)]) t
  | members {key : Option Text} {j : Json} {ms : List (Option Text × Json)} {t ts : Text}
      (h : Spells (.member key j) t) (hs : Spells (.members ms) ts) :
      Spells (.members ((key, j) :: ms)) (t ++ ',' :: ts)

/-- A value whose numbers are spelled as numbers. -/
inductive Proper : Json → Prop
  | null : Proper .null
  | bool (b : Bool) : Proper (.bool b)
  | number {t : Text} (h : Number t) : Proper (.number t)
  | string (s : Option Text) : Proper (.string s)
  | array {js : List Json} (h : ∀ j ∈ js, Proper j) : Proper (.array js)
  | object {ms : List (Option Text × Json)} (h : ∀ m ∈ ms, Proper m.2) : Proper (.object ms)

theorem gap_nil : Gap [] := by simp [Gap]

theorem gap_breakLine (depth : Nat) : Gap (breakLine depth) := by
  intro c hc
  rcases List.mem_cons.mp hc with rfl | hc
  · decide
  · obtain rfl := List.eq_of_mem_replicate hc
    decide

theorem isHex_hexDigit {n : Nat} (h : n < 16) : IsHex (hexDigit n) n := ⟨h, .inl rfl⟩

theorem escape_control : ∀ n < 32,
    (∃ p ∈ shortEscapes, p.2 = Char.ofNat n ∧ escape (Char.ofNat n) = ['\\', p.1]) ∨
      escape (Char.ofNat n) = ['\\', 'u', '0', '0', hexDigit (n / 16), hexDigit (n % 16)] := by
  decide

theorem escape_cases (c : Char) :
    (∃ e, (e, c) ∈ shortEscapes ∧ escape c = ['\\', e]) ∨
      (c.toNat < 32 ∧
        escape c = ['\\', 'u', '0', '0', hexDigit (c.toNat / 16), hexDigit (c.toNat % 16)]) ∨
      (' ' ≤ c ∧ c ≠ '"' ∧ c ≠ '\\' ∧ escape c = [c]) := by
  by_cases hcontrol : c.toNat < 32
  · have hescape := escape_control c.toNat hcontrol
    rw [Char.ofNat_toNat] at hescape
    rcases hescape with ⟨⟨e, _⟩, he, rfl, hescape⟩ | hescape
    · exact .inl ⟨e, he, hescape⟩
    · exact .inr (.inl ⟨hcontrol, hescape⟩)
  by_cases hquote : c = '"'
  · subst hquote
    exact .inl ⟨'"', by decide, rfl⟩
  by_cases hslash : c = '\\'
  · subst hslash
    exact .inl ⟨'\\', by decide, rfl⟩
  · have hescape : escape c = [c] := by
      rw [escape, if_neg hquote, if_neg hslash, if_neg, if_neg, if_neg, if_neg, if_neg,
        if_neg hcontrol] <;> omega
    exact .inr (.inr ⟨Nat.le_of_not_lt hcontrol, hquote, hslash, hescape⟩)

theorem exists_pieces (t : Text) : ∃ pieces, Chars pieces (t.flatMap escape) ∧
    spell? pieces = some t := by
  induction t with
  | nil => exact ⟨[], .nil, by rw [spell?]⟩
  | cons c t ih =>
    obtain ⟨pieces, hchars, hspell⟩ := ih
    rw [List.flatMap_cons]
    rcases escape_cases c with ⟨e, he, hescape⟩ | ⟨hcontrol, hescape⟩ |
      ⟨hplain, hquote, hslash, hescape⟩
    · refine ⟨.char c :: pieces, ?_, by rw [spell?, hspell]; rfl⟩
      rw [hescape]
      exact .short he hchars
    · refine ⟨.code c.toNat :: pieces, ?_, ?_⟩
      · have hnumber : ((0 * 16 + 0) * 16 + c.toNat / 16) * 16 + c.toNat % 16 = c.toNat := by
          omega
        have hcode := Chars.code (isHex_hexDigit (n := 0) (by omega))
          (isHex_hexDigit (n := 0) (by omega)) (isHex_hexDigit (n := c.toNat / 16) (by omega))
          (isHex_hexDigit (n := c.toNat % 16) (by omega)) hchars
        rw [hnumber] at hcode
        rw [hescape]
        exact hcode
      · rw [spell?.eq_def]
        simp only
        rw [if_pos (by omega), Char.ofNat_toNat, hspell]
        rfl
    · refine ⟨.char c :: pieces, ?_, by rw [spell?, hspell]; rfl⟩
      rw [hescape]
      exact .plain hplain hquote hslash hchars

theorem literal_quote (s : Option Text) : Literal s (quote s) := by
  cases s with
  | some t =>
    obtain ⟨pieces, hchars, hspell⟩ := exists_pieces t
    have hliteral := Literal.intro hchars
    rw [hspell] at hliteral
    exact hliteral
  | none =>
    have hchars : Chars [.code 0xD800] ['\\', 'u', 'd', '8', '0', '0'] :=
      .code (isHex_hexDigit (n := 13) (by decide)) (isHex_hexDigit (n := 8) (by decide))
        (isHex_hexDigit (n := 0) (by decide)) (isHex_hexDigit (n := 0) (by decide)) .nil
    exact .intro hchars

theorem spells_printItems {depth : Nat} {item : Json} {items : List Json} {back : Text}
    (hback : Gap back) (h : ∀ j ∈ item :: items, Spells (.value j) (print depth j)) :
    Spells (.items (item :: items))
      (breakLine depth ++ (print depth item ++ (printItems depth items ++ back))) := by
  induction items generalizing item with
  | nil =>
    rw [printItems, List.nil_append]
    exact .lastItem (.text (gap_breakLine depth) (h item List.mem_cons_self) hback)
  | cons next items ih =>
    have hitem := Spells.text (gap_breakLine depth) (h item List.mem_cons_self) gap_nil
    have hitems := Spells.items hitem (ih fun j hj => h j (List.mem_cons_of_mem _ hj))
    simpa [printItems] using hitems

theorem spells_printMembers {depth : Nat} {m : Option Text × Json}
    {ms : List (Option Text × Json)} {back : Text} (hback : Gap back)
    (h : ∀ e ∈ m :: ms, Spells (.value e.2) (print depth e.2)) :
    Spells (.members (m :: ms)) (breakLine depth ++ (quote m.1 ++
      ([':', ' '] ++ (print depth m.2 ++ (printMembers depth ms ++ back))))) := by
  have hspace : Gap [' '] := by simp [Gap]
  induction ms generalizing m with
  | nil =>
    rw [printMembers, List.nil_append]
    exact .lastMember (.member (gap_breakLine depth) (literal_quote m.1) gap_nil
      (.text hspace (h m List.mem_cons_self) hback))
  | cons next ms ih =>
    have hmember := Spells.member (gap_breakLine depth) (literal_quote m.1) gap_nil
      (.text hspace (h m List.mem_cons_self) gap_nil)
    have hmembers := Spells.members hmember (ih fun e he => h e (List.mem_cons_of_mem _ he))
    simpa [printMembers] using hmembers

theorem Proper.spells_print {j : Json} (h : j.Proper) (depth : Nat) :
    Spells (.value j) (print depth j) := by
  induction h generalizing depth with
  | null => exact .null
  | bool b =>
    cases b with
    | true => exact .true
    | false => exact .false
  | number h => exact .number h
  | string s => exact .string (literal_quote s)
  | @array js _ ih =>
    cases js with
    | nil => exact .noItems gap_nil
    | cons item items =>
      have hitems := spells_printItems (gap_breakLine depth) fun j hj => ih j hj (depth + 1)
      simpa [print] using Spells.array hitems
  | @object ms _ ih =>
    cases ms with
    | nil => exact .noMembers gap_nil
    | cons m ms =>
      have hmembers := spells_printMembers (gap_breakLine depth) fun e he => ih e he (depth + 1)
      simpa [print] using Spells.object hmembers

end StyleGuide.Json
