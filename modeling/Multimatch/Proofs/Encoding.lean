import Mathlib.Algebra.Group.Nat.Defs
import Multimatch.Utf8

/-!
# Decoding undoes encoding

`decodeFirst?` reads a scalar value exactly if the bytes begin with its encoding. An encoding that
is read in part leaves open just the values between `Partial.lo` and `Partial.hi`. `Valid` says of
bytes that they are the encodings of scalar values, one after another; what is left of them from a
place between characters on is valid again.
-/
namespace Multimatch.Utf8

theorem isContinuation_iff {b : UInt8} :
    isContinuation b = true ↔ 0x80 ≤ b.toNat ∧ b.toNat < 0xC0 := by
  simp [isContinuation, UInt8.le_iff_toNat_le, UInt8.lt_iff_toNat_lt]

theorem isScalar_iff {c : Nat} :
    isScalar c = true ↔ c < 0xD800 ∨ 0xE000 ≤ c ∧ c ≤ 0x10FFFF := by
  simp [isScalar]

/-! ## The bytes after the first -/

/-- The continuation byte that holds the digit at a place in base 64. -/
def tail (c k : Nat) : UInt8 := UInt8.ofNat (0x80 + c / 64 ^ k % 64)

/-- The last `n` continuation bytes of an encoding. -/
def tails (c : Nat) : Nat → List UInt8
  | 0 => []
  | n + 1 => tail c n :: tails c n

theorem toNat_tail (c k : Nat) : (tail c k).toNat = 0x80 + c / 64 ^ k % 64 := by
  rw [tail, UInt8.toNat_ofNat']
  omega

theorem isContinuation_tail (c k : Nat) : isContinuation (tail c k) = true := by
  rw [isContinuation_iff, toNat_tail]
  omega

theorem length_tails (c n : Nat) : (tails c n).length = n := by
  induction n with
  | zero => rfl
  | succ n ih => rw [tails, List.length_cons, ih]

theorem isContinuation_of_mem_tails {c n : Nat} {b : UInt8} (hb : b ∈ tails c n) :
    isContinuation b = true := by
  induction n with
  | zero => cases hb
  | succ n ih =>
    rcases List.mem_cons.1 hb with rfl | hb
    · exact isContinuation_tail c n
    · exact ih hb

theorem finished?_eq_some_iff {p : Partial} {c : Nat} :
    p.finished? = some c ↔ p.due = 0 ∧ p.bits = c ∧ p.least ≤ c ∧ isScalar c = true := by
  unfold Partial.finished?
  split
  · next hp =>
    simp only [Bool.and_eq_true, decide_eq_true_eq] at hp
    constructor
    · intro heq
      obtain rfl := Option.some.inj heq
      exact ⟨hp.1.1, rfl, hp.1.2, hp.2⟩
    · rintro ⟨_, rfl, _⟩
      rfl
  · next hp =>
    refine ⟨nofun, ?_⟩
    rintro ⟨hdue, rfl, hleast, hscalar⟩
    exact absurd (by simp [hdue, hleast, hscalar]) hp

@[simp] theorem Partial.least_push (p : Partial) (b : UInt8) : (p.push b).least = p.least := by
  cases p
  rfl

theorem decodeRest_of_due {p : Partial} {l : List UInt8} (hdue : p.due = 0) :
    decodeRest p l = p.finished? := by
  cases l with
  | nil => rfl
  | cons b rest => rw [decodeRest, if_pos hdue]

/-- A digit taken in is the next one of the value. -/
theorem push_bits_iff {p : Partial} {n c : Nat} {b : UInt8} (hb : isContinuation b = true) :
    (p.push b).bits = c / 64 ^ n ↔ p.bits = c / 64 ^ (n + 1) ∧ b = tail c n := by
  obtain ⟨hlo, hhi⟩ := isContinuation_iff.1 hb
  rw [← UInt8.toNat_inj, toNat_tail, Nat.pow_succ, ← Nat.div_div_eq_div_mul]
  generalize c / 64 ^ n = rest
  change 64 * p.bits + (b.toNat - 0x80) = rest ↔ _
  omega

/-- Reading on yields a value exactly if the rest of its encoding follows. -/
theorem decodeRest_eq_some_iff {p : Partial} {l : List UInt8} {c : Nat} :
    decodeRest p l = some c ↔
      p.bits = c / 64 ^ p.due ∧ tails c p.due <+: l ∧ p.least ≤ c ∧ isScalar c = true := by
  induction l generalizing p with
  | nil =>
    rw [decodeRest, finished?_eq_some_iff, List.prefix_nil, ← List.length_eq_zero_iff, length_tails]
    constructor
    · rintro ⟨hdue, hbits, hrest⟩
      exact ⟨by rw [hdue, hbits, Nat.pow_zero, Nat.div_one], hdue, hrest⟩
    · rintro ⟨hbits, hdue, hrest⟩
      exact ⟨hdue, by rw [hbits, hdue, Nat.pow_zero, Nat.div_one], hrest⟩
  | cons b rest ih =>
    rw [decodeRest]
    cases hdue : p.due with
    | zero =>
      rw [if_pos rfl, finished?_eq_some_iff, hdue]
      simp [tails]
    | succ n =>
      rw [if_neg (Nat.succ_ne_zero n), tails, List.cons_prefix_cons]
      cases hb : isContinuation b with
      | false =>
        refine ⟨nofun, ?_⟩
        rintro ⟨_, ⟨rfl, _⟩, _⟩
        rw [isContinuation_tail] at hb
        cases hb
      | true =>
        have hpush : (p.push b).due = n := Nat.sub_eq_of_eq_add hdue
        rw [if_pos rfl, ih, hpush, Partial.least_push, push_bits_iff hb]
        constructor
        · rintro ⟨⟨hbits, hfirst⟩, hrest, hend⟩
          exact ⟨hbits, ⟨hfirst.symm, hrest⟩, hend⟩
        · rintro ⟨hbits, ⟨hfirst, hrest⟩, hend⟩
          exact ⟨⟨hbits, hfirst.symm⟩, hrest, hend⟩

/-- The value that is read lies between the least and the greatest one that are left open. -/
theorem bounds_of_decodeRest {p : Partial} {l : List UInt8} {c : Nat}
    (hc : decodeRest p l = some c) : p.lo ≤ c ∧ c ≤ p.hi ∧ isScalar c = true := by
  obtain ⟨hbits, _, hleast, hscalar⟩ := decodeRest_eq_some_iff.1 hc
  have hpos : 0 < 64 ^ p.due := Nat.pow_pos (by decide)
  have hlo := Nat.div_mul_le_self c (64 ^ p.due)
  have hhi := Nat.lt_div_mul_add hpos (a := c)
  rw [← hbits] at hlo hhi
  have hlast := isScalar_iff.1 hscalar
  have hmul : (p.bits + 1) * 64 ^ p.due = p.bits * 64 ^ p.due + 64 ^ p.due := Nat.succ_mul _ _
  refine ⟨Nat.max_le.2 ⟨hlo, hleast⟩, Nat.le_min.2 ⟨?_, by omega⟩, hscalar⟩
  change c ≤ (p.bits + 1) * 64 ^ p.due - 1
  omega

/-! ## Encodings -/

theorem encode_ascii {c : Nat} (hc : c < 0x80) : encode c = [UInt8.ofNat c] := if_pos hc

/-- The first bytes that announce others, and how many they announce. -/
theorem ofLead?_eq_some_iff {b : UInt8} {p : Partial} :
    Partial.ofLead? b = some p ↔
      (0xC0 ≤ b.toNat ∧ b.toNat < 0xE0 ∧ p = ⟨b.toNat - 0xC0, 1, 0x80⟩) ∨
      (0xE0 ≤ b.toNat ∧ b.toNat < 0xF0 ∧ p = ⟨b.toNat - 0xE0, 2, 0x800⟩) ∨
      (0xF0 ≤ b.toNat ∧ b.toNat < 0xF8 ∧ p = ⟨b.toNat - 0xF0, 3, 0x10000⟩) := by
  simp only [Partial.ofLead?, Bool.and_eq_true, decide_eq_true_eq, UInt8.le_iff_toNat_le,
    UInt8.lt_iff_toNat_lt, UInt8.reduceToNat]
  grind

/-- The encoding of a value beyond ASCII: a first byte, which announces the others. -/
theorem encode_of_le {c : Nat} (hc : 0x80 ≤ c) (hlast : c ≤ 0x10FFFF) :
    ∃ b p, Partial.ofLead? b = some p ∧ p.bits = c / 64 ^ p.due ∧ p.least ≤ c ∧
      encode c = b :: tails c p.due := by
  have htail : ∀ k, (UInt8.ofNat (0x80 + c / Nat.pow 64 k % 64) : UInt8) = tail c k := fun _ => rfl
  have hascii : ¬ c < 0x80 := Nat.not_lt.2 hc
  simp only [encode, if_neg hascii, htail]
  by_cases htwo : c < 0x800
  · have hlead : (UInt8.ofNat (0xC0 + c / 64)).toNat = 0xC0 + c / 64 := by
      rw [UInt8.toNat_ofNat']
      omega
    refine ⟨_, ⟨c / 64, 1, 0x80⟩, ofLead?_eq_some_iff.2 (.inl ?_), rfl, hc, if_pos htwo⟩
    rw [hlead, Nat.add_sub_cancel_left]
    exact ⟨by omega, by omega, rfl⟩
  · by_cases hthree : c < 0x10000
    · have hlead : (UInt8.ofNat (0xE0 + c / Nat.pow 64 2)).toNat = 0xE0 + c / 4096 := by
        change (UInt8.ofNat (0xE0 + c / 4096)).toNat = _
        rw [UInt8.toNat_ofNat']
        omega
      refine ⟨_, ⟨c / 4096, 2, 0x800⟩, ofLead?_eq_some_iff.2 (.inr (.inl ?_)), rfl,
        Nat.le_of_not_lt htwo, (if_neg htwo).trans (if_pos hthree)⟩
      rw [hlead, Nat.add_sub_cancel_left]
      exact ⟨by omega, by omega, rfl⟩
    · have hlead : (UInt8.ofNat (0xF0 + c / Nat.pow 64 3)).toNat = 0xF0 + c / 262144 := by
        change (UInt8.ofNat (0xF0 + c / 262144)).toNat = _
        rw [UInt8.toNat_ofNat']
        omega
      refine ⟨_, ⟨c / 262144, 3, 0x10000⟩, ofLead?_eq_some_iff.2 (.inr (.inr ?_)), rfl,
        Nat.le_of_not_lt hthree, (if_neg htwo).trans (if_neg hthree)⟩
      rw [hlead, Nat.add_sub_cancel_left]
      exact ⟨by omega, by omega, rfl⟩

/-- A value has one first byte. -/
theorem lead_unique {b b' : UInt8} {p p' : Partial} {c : Nat} (hb : Partial.ofLead? b = some p)
    (hb' : Partial.ofLead? b' = some p') (hbits : p.bits = c / 64 ^ p.due)
    (hbits' : p'.bits = c / 64 ^ p'.due) (hleast : p.least ≤ c) (hleast' : p'.least ≤ c) :
    b = b' ∧ p = p' := by
  rw [← UInt8.toNat_inj]
  rcases ofLead?_eq_some_iff.1 hb with ⟨hlo, hhi, rfl⟩ | ⟨hlo, hhi, rfl⟩ | ⟨hlo, hhi, rfl⟩ <;>
    rcases ofLead?_eq_some_iff.1 hb' with
      ⟨hlo', hhi', rfl⟩ | ⟨hlo', hhi', rfl⟩ | ⟨hlo', hhi', rfl⟩ <;>
    simp only [Nat.reducePow, Partial.mk.injEq, and_true] at hbits hbits' hleast hleast' ⊢ <;> omega

/-- A first byte with the bytes that it announces is an encoding. -/
theorem encode_of_decodeRest {b : UInt8} {p : Partial} {l : List UInt8} {c : Nat}
    (hlead : Partial.ofLead? b = some p) (hc : decodeRest p l = some c) :
    encode c = b :: tails c p.due := by
  obtain ⟨hbits, -, hleast, hscalar⟩ := decodeRest_eq_some_iff.1 hc
  have hmore : 0x80 ≤ c := by
    rcases ofLead?_eq_some_iff.1 hlead with ⟨_, _, rfl⟩ | ⟨_, _, rfl⟩ | ⟨_, _, rfl⟩ <;>
      simp only at hleast <;> omega
  have hlast := isScalar_iff.1 hscalar
  obtain ⟨b', p', hlead', hbits', hleast', heq⟩ := encode_of_le hmore (by omega)
  obtain ⟨rfl, rfl⟩ := lead_unique hlead hlead' hbits hbits' hleast hleast'
  exact heq

/-- The first byte of an encoding continues no character, and the others do. -/
theorem exists_encode_eq_cons {c : Nat} (hc : isScalar c = true) :
    ∃ b rest, encode c = b :: rest ∧ isContinuation b = false ∧
      ∀ b' ∈ rest, isContinuation b' = true := by
  have hlast := isScalar_iff.1 hc
  rcases Nat.lt_or_ge c 0x80 with hascii | hmore
  · refine ⟨_, [], encode_ascii hascii, ?_, fun _ hb => absurd hb List.not_mem_nil⟩
    rw [← Bool.not_eq_true, isContinuation_iff, UInt8.toNat_ofNat']
    omega
  · obtain ⟨b, p, hlead, -, -, heq⟩ := encode_of_le hmore (by omega)
    refine ⟨b, _, heq, ?_, fun _ hb => isContinuation_of_mem_tails hb⟩
    rw [← Bool.not_eq_true, isContinuation_iff]
    rcases ofLead?_eq_some_iff.1 hlead with hb | hb | hb <;> omega

/-- An encoding that does not begin with an ASCII byte is read from its first byte on. -/
theorem exists_lead_of_prefix {b : UInt8} {rest : List UInt8} {c : Nat} (hb : ¬ b < 0x80)
    (hc : isScalar c = true) (hl : encode c <+: b :: rest) :
    ∃ p, Partial.ofLead? b = some p ∧ decodeRest p rest = some c := by
  have hlast := isScalar_iff.1 hc
  rcases Nat.lt_or_ge c 0x80 with hascii | hmore
  · rw [encode_ascii hascii] at hl
    rw [← (List.cons_prefix_cons.1 hl).1, UInt8.lt_iff_toNat_lt, UInt8.toNat_ofNat'] at hb
    exact absurd (by simp only [UInt8.reduceToNat]; omega) hb
  · obtain ⟨b', p, hlead, hbits, hleast, heq⟩ := encode_of_le hmore (by omega)
    rw [heq] at hl
    obtain ⟨rfl, htail⟩ := List.cons_prefix_cons.1 hl
    exact ⟨p, hlead, decodeRest_eq_some_iff.2 ⟨hbits, htail, hleast, hc⟩⟩

/-- The bytes begin with a character exactly if they begin with its encoding. -/
theorem decodeFirst?_eq_some_iff {l : List UInt8} {c : Nat} :
    decodeFirst? l = some c ↔ isScalar c = true ∧ encode c <+: l := by
  cases l with
  | nil =>
    refine ⟨nofun, fun ⟨hc, hl⟩ => ?_⟩
    obtain ⟨b, rest, heq, -⟩ := exists_encode_eq_cons hc
    rw [heq] at hl
    cases List.prefix_nil.1 hl
  | cons b rest =>
    rw [decodeFirst?]
    split
    · next hb =>
      have hb : b.toNat < 0x80 := UInt8.lt_iff_toNat_lt.1 hb
      constructor
      · rintro heq
        obtain rfl := Option.some.inj heq
        rw [encode_ascii hb, UInt8.ofNat_toNat]
        exact ⟨isScalar_iff.2 (by omega), List.cons_prefix_cons.2 ⟨rfl, List.nil_prefix⟩⟩
      · rintro ⟨hc, hl⟩
        rcases Nat.lt_or_ge c 0x80 with hascii | hmore
        · rw [encode_ascii hascii] at hl
          rw [← (List.cons_prefix_cons.1 hl).1, UInt8.toNat_ofNat']
          exact congrArg some (by omega)
        · have hlast := isScalar_iff.1 hc
          obtain ⟨b', p, hlead, -, -, heq⟩ := encode_of_le hmore (by omega)
          rw [heq] at hl
          obtain ⟨rfl, _⟩ := List.cons_prefix_cons.1 hl
          rcases ofLead?_eq_some_iff.1 hlead with hb' | hb' | hb' <;> omega
    · next hb =>
      cases hlead : Partial.ofLead? b with
      | none =>
        refine ⟨nofun, fun ⟨hc, hl⟩ => ?_⟩
        obtain ⟨p, hp, -⟩ := exists_lead_of_prefix hb hc hl
        rw [hlead] at hp
        cases hp
      | some p =>
        dsimp only
        constructor
        · intro hc
          obtain ⟨_, htail, _, hscalar⟩ := decodeRest_eq_some_iff.1 hc
          rw [encode_of_decodeRest hlead hc]
          exact ⟨hscalar, List.cons_prefix_cons.2 ⟨rfl, htail⟩⟩
        · rintro ⟨hc, hl⟩
          obtain ⟨p', hp, hrest⟩ := exists_lead_of_prefix hb hc hl
          rw [hlead] at hp
          obtain rfl := Option.some.inj hp
          exact hrest

/-! ## Valid encodings -/

/-- Encodings of scalar values, one after another. -/
def Valid (l : List UInt8) : Prop :=
  ∃ cs : List Nat, (∀ c ∈ cs, isScalar c = true) ∧ l = cs.flatMap encode

theorem valid_nil : Valid [] := ⟨[], nofun, rfl⟩

theorem Valid.append_encode {l : List UInt8} (hl : Valid l) {c : Nat} (hc : isScalar c = true) :
    Valid (l ++ encode c) := by
  obtain ⟨cs, hcs, rfl⟩ := hl
  refine ⟨cs ++ [c], ?_, ?_⟩
  · rw [List.forall_mem_append, List.forall_mem_singleton]
    exact ⟨hcs, hc⟩
  · rw [List.flatMap_append, List.flatMap_singleton]

theorem isBoundary_of_valid {l : List UInt8} (hl : Valid l) : isBoundary l = true := by
  obtain ⟨cs, hcs, rfl⟩ := hl
  cases cs with
  | nil => rfl
  | cons c cs =>
    obtain ⟨b, rest, heq, hb, -⟩ := exists_encode_eq_cons (hcs c List.mem_cons_self)
    rw [List.flatMap_cons, heq, List.cons_append, isBoundary, hb, Bool.not_false]

/-- What is left from a place between characters on is valid again. -/
theorem Valid.drop {l : List UInt8} (hl : Valid l) {n : Nat}
    (hn : Utf8.isBoundary (l.drop n) = true) : Valid (l.drop n) := by
  obtain ⟨cs, hcs, rfl⟩ := hl
  induction cs generalizing n with
  | nil => exact ⟨[], hcs, by simp⟩
  | cons c cs ih =>
    rw [List.forall_mem_cons] at hcs
    obtain ⟨b, rest, heq, -, hrest⟩ := exists_encode_eq_cons hcs.1
    cases n with
    | zero => exact ⟨c :: cs, List.forall_mem_cons.2 hcs, rfl⟩
    | succ n =>
      rw [List.flatMap_cons, heq, List.cons_append, List.drop_succ_cons] at hn ⊢
      rcases Nat.lt_or_ge n rest.length with hlt | hge
      · -- The place is within the first character.
        rw [List.drop_append_of_le_length (Nat.le_of_lt hlt), List.drop_eq_getElem_cons hlt,
          List.cons_append, isBoundary, hrest _ (List.getElem_mem hlt)] at hn
        cases hn
      · rw [List.drop_append, List.drop_eq_nil_of_le hge, List.nil_append] at hn ⊢
        exact ih hcs.2 hn

/-- What is left after the first character is valid again. -/
theorem Valid.drop_encode {l : List UInt8} (hl : Valid l) {c : Nat} (hc : isScalar c = true)
    (hcl : encode c <+: l) : Valid (l.drop (encode c).length) := by
  obtain ⟨cs, hcs, rfl⟩ := hl
  have hfirst := decodeFirst?_eq_some_iff.2 ⟨hc, hcl⟩
  cases cs with
  | nil => cases hfirst
  | cons d cs =>
    rw [List.forall_mem_cons] at hcs
    rw [List.flatMap_cons] at hfirst ⊢
    rw [decodeFirst?_eq_some_iff.2 ⟨hcs.1, List.prefix_append _ _⟩] at hfirst
    obtain rfl := Option.some.inj hfirst
    rw [List.drop_left]
    exact ⟨cs, hcs.2, rfl⟩

end Multimatch.Utf8
