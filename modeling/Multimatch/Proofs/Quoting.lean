import Mathlib.Data.List.Induction
import Multimatch.Text.Quoted

/-!
# What stands for a text within quotes

`StandsFor` is the rule for one character: it stands for itself where it can be seen, and otherwise
an escape stands for it, a backslash with a letter or with the number of the character. `Quotes` is
the rule for a text. Both leave no choice, and `quoted` follows them. Both are also delimited: what
stands for a character, and what stands for a text, can be told from whatever follows it. So no
text can imitate an escape of another one, or its closing quote and what comes after that.
-/
namespace Multimatch.Text

/-! ## Telling a value from what follows -/

/-- Whether what stands for a value can be told from whatever follows it. -/
def Delimited {α : Type} (Writes : List Char → α → Prop) : Prop :=
  ∀ ⦃e e' r r' : List Char⦄ ⦃a b : α⦄, Writes e a → Writes e' b → e ++ r = e' ++ r' →
    a = b ∧ r = r'

/-- Whether what stands for a value always begins with a character other than a given one. -/
def NeverOpens {α : Type} (close : Char) (Writes : List Char → α → Prop) : Prop :=
  ∀ ⦃e : List Char⦄ ⦃a : α⦄, Writes e a → ∃ x t, x ≠ close ∧ e = x :: t

/-- What stands for values, one after another, and a character that closes them. -/
inductive ClosedBy {α : Type} (close : Char) (Writes : List Char → α → Prop) :
    List Char → List α → Prop
  | nil : ClosedBy close Writes [close] []
  | cons {e t : List Char} {a : α} {as : List α} :
      Writes e a → ClosedBy close Writes t as → ClosedBy close Writes (e ++ t) (a :: as)

section ClosedBy

variable {α : Type} {close : Char} {Writes : List Char → α → Prop} {write : α → List Char}
  {as : List α} {t : List Char}

theorem NeverOpens.append_ne (hopens : NeverOpens close Writes) {e : List Char} {a : α}
    (he : Writes e a) (r r' : List Char) : e ++ r ≠ close :: r' := by
  obtain ⟨x, t, hx, rfl⟩ := hopens he
  exact fun heq => hx (List.cons.inj heq).1

theorem closedBy_flatMap (h : ∀ a ∈ as, Writes (write a) a) :
    ClosedBy close Writes (as.flatMap write ++ [close]) as := by
  induction as with
  | nil => exact .nil
  | cons a as ih =>
    rw [List.flatMap_cons, List.append_assoc]
    exact .cons (h a List.mem_cons_self) (ih fun b hb => h b (List.mem_cons_of_mem a hb))

theorem ClosedBy.eq_flatMap (ht : ClosedBy close Writes t as)
    (h : ∀ e a, Writes e a → e = write a) : t = as.flatMap write ++ [close] := by
  induction ht with
  | nil => rfl
  | cons ha _ ih => rw [h _ _ ha, ih, List.flatMap_cons, List.append_assoc]

/-- Values can be told apart up to the character that closes them, if none begins with it. -/
theorem Delimited.closedBy (hd : Delimited Writes) (hopens : NeverOpens close Writes) :
    Delimited (ClosedBy close Writes) := by
  intro t t' r r' as bs ht ht' heq
  -- Both texts are read from the front: they begin with the same value, or are both closed.
  induction ht generalizing t' bs with
  | nil =>
    cases ht' with
    | nil => exact ⟨rfl, (List.cons.inj heq).2⟩
    | cons hb _ =>
      rw [List.append_assoc] at heq
      exact absurd heq.symm (hopens.append_ne hb _ _)
  | cons ha _ ih =>
    rw [List.append_assoc] at heq
    cases ht' with
    | nil => exact absurd heq (hopens.append_ne ha _ _)
    | cons hb hbs =>
      rw [List.append_assoc] at heq
      obtain ⟨rfl, hrest⟩ := hd ha hb heq
      obtain ⟨rfl, hr⟩ := ih hbs hrest
      exact ⟨rfl, hr⟩

end ClosedBy

/-! ## Numerals -/

def lowerDigits : List Char := "0123456789abcdef".toList

/-- The digits of a number in base sixteen, without a zero in front. -/
structure IsNumeral (ds : List Char) (n : Nat) : Prop where
  digit : ∀ d ∈ ds, d ∈ lowerDigits
  leading : ∀ rest, ds = '0' :: rest → rest = []
  nonempty : ds ≠ []
  value : Unicode.hexNumber ds = n

section Numerals

variable {ds ds' : List Char} {d : Char} {n m : Nat}

theorem hexNumber_concat (ds : List Char) (d : Char) :
    Unicode.hexNumber (ds ++ [d]) = 16 * Unicode.hexNumber ds + Unicode.hexDigitValue d := by
  simp only [Unicode.hexNumber, List.foldl_append, List.foldl_cons, List.foldl_nil]

theorem hexDigitValue_digitChar : ∀ k < 16, Unicode.hexDigitValue k.digitChar = k := by
  decide

theorem mem_lowerDigits_iff : d ∈ lowerDigits ↔ ∃ k < 16, k.digitChar = d := by
  have heq : lowerDigits = (List.range 16).map Nat.digitChar := by decide
  simp only [heq, List.mem_map, List.mem_range]

theorem digitChar_mem (h : n < 16) : n.digitChar ∈ lowerDigits := mem_lowerDigits_iff.2 ⟨n, h, rfl⟩

theorem digitChar_hexDigitValue (hd : d ∈ lowerDigits) :
    Unicode.hexDigitValue d < 16 ∧ (Unicode.hexDigitValue d).digitChar = d := by
  obtain ⟨k, hk, rfl⟩ := mem_lowerDigits_iff.1 hd
  rw [hexDigitValue_digitChar k hk]
  exact ⟨hk, rfl⟩

theorem lowerHex_of_lt (h : n < 16) : lowerHex n = [n.digitChar] :=
  Nat.toDigits_of_lt_base h

theorem lowerHex_of_le (h : 16 ≤ n) : lowerHex n = lowerHex (n / 16) ++ [(n % 16).digitChar] :=
  Nat.toDigits_of_base_le (by decide) h

theorem isNumeral_digit (hd : d ∈ lowerDigits) : IsNumeral [d] (Unicode.hexDigitValue d) where
  digit c hc := List.mem_singleton.1 hc ▸ hd
  leading _ h := (List.cons.inj h).2.symm
  nonempty := List.cons_ne_nil d []
  value := by simp [Unicode.hexNumber]

theorem IsNumeral.ne_zero_cons (h : IsNumeral ds n) (hn : 0 < n) (rest : List Char) :
    ds ≠ '0' :: rest := by
  rintro rfl
  have hzero := h.value
  rw [h.leading rest rfl] at hzero
  exact Nat.ne_of_lt hn hzero

/-- A numeral can be continued with any digit, except that of zero. -/
theorem IsNumeral.concat (h : IsNumeral ds n) (hn : 0 < n) (hd : d ∈ lowerDigits) :
    IsNumeral (ds ++ [d]) (16 * n + Unicode.hexDigitValue d) where
  digit c hc := by
    rcases List.mem_append.1 hc with hc | hc
    · exact h.digit c hc
    · exact List.mem_singleton.1 hc ▸ hd
  leading rest hrest := by
    obtain ⟨c, cs, rfl⟩ := List.exists_cons_of_ne_nil h.nonempty
    obtain ⟨rfl, -⟩ := List.cons.inj hrest
    exact absurd rfl (h.ne_zero_cons hn cs)
  nonempty := by simp
  value := by rw [hexNumber_concat, h.value]

theorem isNumeral_lowerHex (n : Nat) : IsNumeral (lowerHex n) n := by
  induction n using Nat.strongRecOn with
  | ind n ih =>
    by_cases hn : n < 16
    · have h := isNumeral_digit (digitChar_mem hn)
      rwa [hexDigitValue_digitChar n hn, ← lowerHex_of_lt hn] at h
    · have hlast : n % 16 < 16 := Nat.mod_lt _ (by decide)
      have h := (ih (n / 16) (by omega)).concat (by omega) (digitChar_mem hlast)
      rwa [hexDigitValue_digitChar _ hlast, ← lowerHex_of_le (by omega), Nat.div_add_mod] at h

/-- A numeral without its last digit, if it has more than one. -/
theorem IsNumeral.front (h : IsNumeral (ds ++ [d]) n) (hne : ds ≠ []) :
    IsNumeral ds (Unicode.hexNumber ds) ∧ ∀ rest, ds ≠ '0' :: rest := by
  have hleading (rest : List Char) : ds ≠ '0' :: rest := by
    rintro rfl
    exact absurd (h.leading (rest ++ [d]) rfl) (by simp)
  refine ⟨⟨?_, fun rest heq => absurd heq (hleading rest), hne, rfl⟩, hleading⟩
  intro c hc
  exact h.digit c (List.mem_append_left [d] hc)

/-- A number has no other numeral. -/
theorem IsNumeral.eq_lowerHex (h : IsNumeral ds n) : ds = lowerHex n := by
  induction ds using List.reverseRecOn generalizing n with
  | nil => exact absurd rfl h.nonempty
  | append_singleton ds d ih =>
    obtain ⟨hlt, hchar⟩ := digitChar_hexDigitValue (h.digit d (by simp))
    have hn := h.value
    rw [hexNumber_concat] at hn
    by_cases hnil : ds = []
    · subst hnil
      have hd : Unicode.hexDigitValue d = n := by simpa [Unicode.hexNumber] using hn
      rw [lowerHex_of_lt (hd ▸ hlt), ← hd, hchar]
      rfl
    · obtain ⟨hfront, hleading⟩ := h.front hnil
      have hds := ih hfront
      -- The front is not the numeral of zero, so the number has a sixteenth part.
      have hpos : Unicode.hexNumber ds ≠ 0 := by
        intro hzero
        rw [hzero] at hds
        exact hleading [] hds
      have hdiv : n / 16 = Unicode.hexNumber ds := by omega
      have hmod : n % 16 = Unicode.hexDigitValue d := by omega
      rw [lowerHex_of_le (by omega), hdiv, hmod, hchar, ← hds]

/-- A digit of a numeral, which stands for itself. -/
def IsDigit (e : List Char) (d : Char) : Prop := e = [d] ∧ d ∈ lowerDigits

theorem delimited_isDigit : Delimited IsDigit := by
  rintro e e' r r' d d' ⟨rfl, -⟩ ⟨rfl, -⟩ heq
  exact List.cons.inj heq

theorem neverOpens_isDigit : NeverOpens '\x7d' IsDigit := by
  rintro e d ⟨rfl, hd⟩
  refine ⟨d, [], ?_, rfl⟩
  rintro rfl
  exact absurd hd (by decide)

theorem IsNumeral.closedBy (h : IsNumeral ds n) :
    ClosedBy '\x7d' IsDigit (ds ++ ['\x7d']) ds := by
  have hclosed : ClosedBy '\x7d' IsDigit (ds.flatMap (fun d => [d]) ++ ['\x7d']) ds :=
    closedBy_flatMap fun d hd => ⟨rfl, h.digit d hd⟩
  rwa [List.flatMap_singleton'] at hclosed

theorem IsNumeral.unique {r r' : List Char} (hn : IsNumeral ds n) (hm : IsNumeral ds' m)
    (heq : ds ++ ['\x7d'] ++ r = ds' ++ ['\x7d'] ++ r') : n = m ∧ r = r' := by
  obtain ⟨rfl, hr⟩ := delimited_isDigit.closedBy neverOpens_isDigit hn.closedBy hm.closedBy heq
  exact ⟨hn.value.symm.trans hm.value, hr⟩

end Numerals

/-! ## Characters -/

/-- The characters that a letter after a backslash stands for. -/
def escapeLetters : List (Char × Char) :=
  [('"', '"'), ('\\', '\\'), ('\n', 'n'), ('\r', 'r'), ('\t', 't'), ('\x00', '0')]

/-- Whether a character can be seen where it stands: it is one of ASCII that print, or it prints
and is not a mark on the character before it. -/
def Legible (c : Char) : Prop :=
  (0x20 ≤ c.toNat ∧ c.toNat < 0x7F) ∨
    (Unicode.printable.contains c.toNat = true ∧ Unicode.graphemeExtend.contains c.toNat = false)

instance (c : Char) : Decidable (Legible c) := inferInstanceAs (Decidable (_ ∨ _))

/-- What stands for a character within quotes. -/
inductive StandsFor : List Char → Char → Prop
  | letter {c l : Char} : (c, l) ∈ escapeLetters → StandsFor ['\\', l] c
  | itself {c : Char} : (∀ l, (c, l) ∉ escapeLetters) → Legible c → StandsFor [c] c
  | number {c : Char} {ds : List Char} :
      (∀ l, (c, l) ∉ escapeLetters) → ¬ Legible c → IsNumeral ds c.toNat →
      StandsFor ('\\' :: 'u' :: '\x7b' :: (ds ++ ['\x7d'])) c

theorem quotedChar_of_letter {c l : Char} (h : (c, l) ∈ escapeLetters) :
    quotedChar c = ['\\', l] := by
  simp only [escapeLetters, List.mem_cons, Prod.mk.injEq, List.not_mem_nil, or_false] at h
  rcases h with ⟨rfl, rfl⟩ | ⟨rfl, rfl⟩ | ⟨rfl, rfl⟩ | ⟨rfl, rfl⟩ | ⟨rfl, rfl⟩ | ⟨rfl, rfl⟩ <;> rfl

theorem quotedChar_of_no_letter {c : Char} (h : ∀ l, (c, l) ∉ escapeLetters) :
    quotedChar c = if Legible c then [c] else numbered c := by
  have hlegible : Legible c ↔
      (0x20 ≤ c.toNat && c.toNat < 0x7F) = true ∨ showsAlone c = true := by
    simp only [Legible, showsAlone, Bool.and_eq_true, Bool.not_eq_true', decide_eq_true_eq]
  simp only [escapeLetters, List.mem_cons, Prod.mk.injEq, List.not_mem_nil, or_false] at h
  unfold quotedChar
  split
  case h_7 => simp only [hlegible, ite_or]
  all_goals simp at h

theorem standsFor_iff {e : List Char} {c : Char} : StandsFor e c ↔ e = quotedChar c := by
  constructor
  · rintro (hletter | ⟨hnone, hlegible⟩ | ⟨hnone, hillegible, hn⟩)
    · exact (quotedChar_of_letter hletter).symm
    · rw [quotedChar_of_no_letter hnone, if_pos hlegible]
    · rw [quotedChar_of_no_letter hnone, if_neg hillegible, hn.eq_lowerHex]
      rfl
  · rintro rfl
    by_cases hletter : ∃ l, (c, l) ∈ escapeLetters
    · obtain ⟨l, hl⟩ := hletter
      rw [quotedChar_of_letter hl]
      exact .letter hl
    · have hnone := not_exists.1 hletter
      rw [quotedChar_of_no_letter hnone]
      split
      case isTrue hlegible => exact .itself hnone hlegible
      case isFalse hillegible => exact .number hnone hillegible (isNumeral_lowerHex c.toNat)

theorem letter_unique : ∀ p ∈ escapeLetters, ∀ q ∈ escapeLetters, p.2 = q.2 → p.1 = q.1 := by
  decide

/-- No escape with a letter looks like the beginning of one with a number. -/
theorem letter_ne_u : ∀ p ∈ escapeLetters, p.2 ≠ 'u' := by
  decide

theorem ne_backslash {c : Char} (h : ∀ l, (c, l) ∉ escapeLetters) : c ≠ '\\' := by
  rintro rfl
  exact h '\\' (by decide)

theorem delimited_standsFor : Delimited StandsFor := by
  intro e e' r r' c d hc hd heq
  -- The first character tells an escape from the others, and the second one the kinds of escapes.
  cases hc with
  | letter hc =>
    cases hd with
    | letter hd =>
      obtain ⟨hletter, hr⟩ := List.cons.inj (List.cons.inj heq).2
      exact ⟨letter_unique _ hc _ hd hletter, hr⟩
    | itself hd _ => exact absurd (List.cons.inj heq).1.symm (ne_backslash hd)
    | number _ _ _ => exact absurd (List.cons.inj (List.cons.inj heq).2).1 (letter_ne_u _ hc)
  | itself hc _ =>
    cases hd with
    | letter _ => exact absurd (List.cons.inj heq).1 (ne_backslash hc)
    | itself _ _ => exact List.cons.inj heq
    | number _ _ _ => exact absurd (List.cons.inj heq).1 (ne_backslash hc)
  | number _ _ hn =>
    cases hd with
    | letter hd => exact absurd (List.cons.inj (List.cons.inj heq).2).1.symm (letter_ne_u _ hd)
    | itself hd _ => exact absurd (List.cons.inj heq).1.symm (ne_backslash hd)
    | number _ _ hm =>
      simp only [List.cons_append, List.cons.injEq, true_and] at heq
      obtain ⟨hvalue, hr⟩ := hn.unique hm heq
      exact ⟨Char.toNat_inj.1 hvalue, hr⟩

/-- A quote that stands within quotes stands behind a backslash. -/
theorem neverOpens_standsFor : NeverOpens '"' StandsFor := by
  intro e c h
  cases h with
  | letter _ => exact ⟨'\\', _, by decide, rfl⟩
  | itself hnone _ =>
    refine ⟨c, [], ?_, rfl⟩
    rintro rfl
    exact hnone '"' (by decide)
  | number _ _ _ => exact ⟨'\\', _, by decide, rfl⟩

/-! ## Texts -/

/-- What stands for a text: a quote, what stands for its characters, and a quote that closes it. -/
def Quotes (q : List Char) (text : String) : Prop :=
  ∃ t, ClosedBy '"' StandsFor t text.toList ∧ q = '"' :: t

theorem quotes_iff {q : List Char} {text : String} : Quotes q text ↔ q = quoted text := by
  constructor
  · rintro ⟨t, ht, rfl⟩
    rw [ht.eq_flatMap fun _ _ => standsFor_iff.1]
    rfl
  · rintro rfl
    exact ⟨_, closedBy_flatMap fun _ _ => standsFor_iff.2 rfl, rfl⟩

theorem delimited_quotes : Delimited Quotes := by
  rintro q q' r r' text text' ⟨t, ht, rfl⟩ ⟨t', ht', rfl⟩ heq
  obtain ⟨hchars, hr⟩ :=
    delimited_standsFor.closedBy neverOpens_standsFor ht ht' (List.cons.inj heq).2
  exact ⟨String.toList_inj.1 hchars, hr⟩

/-- What would close one text and open the next does neither within quotes. -/
example : quoted "a\", \"b" = "\"a\\\", \\\"b\"".toList := by decide

end Multimatch.Text
