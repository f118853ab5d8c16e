import Multimatch.Proofs.Matching
import Multimatch.Regex.OfPattern

/-!
# Matches of whole characters

Where the options ask for UTF-8, a pattern is refused if it could match a byte beyond ASCII by
itself (`takesCharacters_of_ofPattern`). What is left takes characters one by one, so in valid UTF-8
a match that begins between characters ends between characters, and one that begins within a
character takes nothing at all.
-/
namespace Multimatch

theorem exists_of_bind_eq_ok {ε α β : Type} {x : Except ε α} {f : α → Except ε β} {b : β}
    (hb : x >>= f = .ok b) : ∃ a, x = .ok a ∧ f a = .ok b := by
  cases x with
  | error e => cases hb
  | ok a => exact ⟨a, rfl, hb⟩

theorem bind_eq_of_eq_ok {ε α β : Type} {x : Except ε α} {a : α} (hx : x = .ok a)
    (f : α → Except ε β) : x >>= f = f a := by
  rw [hx]
  rfl

namespace Regex

variable {h : Haystack} {i j : Nat} {r : Regex}

/-- Whether the parts of an expression that match single bytes match ASCII bytes only. -/
def TakesCharacters : Regex → Prop
  | empty | char _ | look _ => True
  | byte s => ∀ n, s.contains n = true → n ≤ 0x7F
  | cat _ x y | alt _ x y => x.TakesCharacters ∧ y.TakesCharacters
  | rep _ _ _ _ x => x.TakesCharacters

/-! ## Where matches end -/

theorem encode_prefix_of_ascii {b : UInt8} (hb : h[i]? = some b) (hascii : b.toNat ≤ 0x7F) :
    Utf8.isScalar b.toNat = true ∧ Utf8.encode b.toNat <+: h.drop i ∧
      (Utf8.encode b.toNat).length = 1 := by
  obtain ⟨hi, rfl⟩ := List.getElem?_eq_some_iff.1 hb
  rw [Utf8.encode_ascii (by omega), UInt8.ofNat_toNat, List.drop_eq_getElem_cons hi]
  exact ⟨Utf8.isScalar_iff.2 (by omega), List.cons_prefix_cons.2 ⟨rfl, List.nil_prefix⟩, rfl⟩

/-- What holds of a place and is carried over each character holds where a match ends. -/
theorem Matches.carry {P : Nat → Prop} (hm : r.Matches h i j) (hr : r.TakesCharacters)
    (hP : ∀ i c, P i → Utf8.isScalar c = true → Utf8.encode c <+: h.drop i →
      P (i + (Utf8.encode c).length)) (hi : P i) : P j := by
  induction r generalizing i j with
  | empty => exact (show i = j from hm) ▸ hi
  | char s =>
    obtain ⟨c, hc, _, hprefix, rfl⟩ := hm
    exact hP i c hi hc hprefix
  | byte s =>
    obtain ⟨b, hb, hs, rfl⟩ := hm
    obtain ⟨hc, hprefix, hlength⟩ := encode_prefix_of_ascii hb (hr _ hs)
    exact hlength ▸ hP i _ hi hc hprefix
  | look l => exact hm.1 ▸ hi
  | cat _ x y hx hy =>
    obtain ⟨k, hik, hkj⟩ := hm
    exact hy hkj hr.2 (hx hik hr.1 hi)
  | alt _ x y hx hy => exact hm.elim (hx · hr.1 hi) (hy · hr.2 hi)
  | rep _ min max greedy x hx =>
    obtain ⟨n, _, _, ht⟩ := hm
    exact ht.carry (fun k j hk hkj => hx hkj hr hk) hi

/-- In valid UTF-8, a match that begins between characters ends between characters. -/
theorem Matches.isBoundary (hm : r.Matches h i j) (hr : r.TakesCharacters) (hh : Utf8.Valid h)
    (hi : Utf8.isBoundary (h.drop i) = true) : Utf8.isBoundary (h.drop j) = true := by
  refine hm.carry (P := fun k => Utf8.isBoundary (h.drop k) = true) hr (fun k c hk hc hprefix => ?_)
    hi
  rw [← List.drop_drop]
  exact Utf8.isBoundary_of_valid ((hh.drop hk).drop_encode hc hprefix)

/-- A match that begins within a character takes nothing. -/
theorem Matches.eq_of_not_isBoundary (hm : r.Matches h i j) (hr : r.TakesCharacters)
    (hi : Utf8.isBoundary (h.drop i) = false) : i = j := by
  refine hm.carry (P := (i = ·)) hr (fun k c hk hc hprefix => ?_) rfl
  obtain ⟨b, rest, heq, hb, -⟩ := Utf8.exists_encode_eq_cons hc
  obtain ⟨l, hl⟩ := hprefix
  rw [hk, ← hl, heq, List.cons_append, Utf8.isBoundary, hb] at hi
  cases hi

/-- In valid UTF-8, a match that ends within a character takes nothing. -/
theorem Matches.eq_of_not_isBoundary_stop (hm : r.Matches h i j) (hr : r.TakesCharacters)
    (hh : Utf8.Valid h) (hj : Utf8.isBoundary (h.drop j) = false) : i = j := by
  cases hi : Utf8.isBoundary (h.drop i) with
  | false => exact hm.eq_of_not_isBoundary hr hi
  | true =>
    rw [hm.isBoundary hr hh hi] at hj
    cases hj

/-! ## Building expressions -/

theorem takesCharacters_ofRep (min : Nat) (max : Option Nat) (greedy : Bool)
    (hr : r.TakesCharacters) : (ofRep min max greedy r).TakesCharacters := by
  unfold ofRep
  generalize (if r.zeroWidth then min.min 1 else min) = min'
  generalize (if r.zeroWidth then some ((max.getD 1).min 1) else max) = max'
  dsimp only
  split
  · trivial
  · split <;> exact hr

theorem takesCharacters_number (n : Nat) (hr : r.TakesCharacters) :
    (r.number n).1.TakesCharacters := by
  induction r generalizing n with
  | empty | char | byte | look => exact hr
  | cat _ x y hx hy => exact ⟨hx _ hr.1, hy _ hr.2⟩
  | alt _ x y hx hy => exact ⟨hx _ hr.1, hy _ hr.2⟩
  | rep _ min max greedy x hx => exact hx _ hr

end Regex

namespace Pattern

variable {o : Options} {f : Flags}

theorem le_of_isAscii {s : IntervalSet} (hs : s.isAscii = true) {n : Nat}
    (hn : s.contains n = true) : n ≤ 0x7F := by
  obtain ⟨i, hi, hmem⟩ := List.any_eq_true.1 hn
  have hhi := List.all_eq_true.1 hs i hi
  simp only [Interval.contains, Bool.and_eq_true, decide_eq_true_eq] at hhi hmem
  omega

theorem le_of_foldAsciiCase {s : IntervalSet} (hs : s.isAscii = true) {n : Nat}
    (hn : (foldAsciiCase s).contains n = true) : n ≤ 0x7F := by
  unfold foldAsciiCase at hn
  rw [IntervalSet.contains_ofList, List.any_append, List.any_append, Bool.or_eq_true,
    Bool.or_eq_true] at hn
  have hshifted : ∀ (lo hi : Nat) (g : Nat → Nat), (∀ k, k ≤ hi → g k ≤ 0x7F) →
      ((s.intervals.filterMap fun i => (i.inter? ⟨lo, hi⟩).map fun j =>
        (⟨g j.lo, g j.hi⟩ : Interval)).any (·.contains n)) = true → n ≤ 0x7F := by
    intro lo hi g hg hn
    obtain ⟨i, hi, hmem⟩ := List.any_eq_true.1 hn
    obtain ⟨i', _, hi⟩ := List.mem_filterMap.1 hi
    obtain ⟨j, hj, rfl⟩ := Option.map_eq_some_iff.1 hi
    unfold Interval.inter? at hj
    split at hj
    · obtain rfl := Option.some.inj hj
      simp only [Interval.contains, Bool.and_eq_true, decide_eq_true_eq] at hmem
      exact Nat.le_trans hmem.2 (hg _ (Nat.min_le_right _ _))
    · cases hj
  rcases hn with (hn | hn) | hn
  · exact le_of_isAscii hs hn
  · exact hshifted 0x41 0x5A (· + 0x20) (fun k hk => by omega) hn
  · exact hshifted 0x61 0x7A (· - 0x20) (fun k hk => by omega) hn

/-- A set of bytes that passes the check has ASCII bytes only, if the options ask for UTF-8. -/
theorem takesCharacters_member (ho : o.utf8 = true) {s t : IntervalSet}
    (hs : (setRules o f).check s = .ok t) : (f.member t).TakesCharacters := by
  unfold setRules at hs
  unfold Flags.member
  split at hs
  · next hf =>
    rw [if_pos hf]
    trivial
  · next hf =>
    rw [if_neg hf]
    intro n hn
    change (if o.utf8 && !s.isAscii then Except.error Fault.invalidUtf8 else .ok s) = .ok t at hs
    rw [ho, Bool.true_and] at hs
    split at hs
    · cases hs
    · next hascii =>
      obtain rfl := Except.ok.inj hs
      exact le_of_isAscii (by simpa using hascii) hn

/-- Where the options ask for UTF-8, no character that is written out is a byte. -/
theorem byte?_eq_ok (ho : o.utf8 = true) {l : Literal} {found : Option Nat}
    (hl : l.byte? o = .ok found) : found = none := by
  unfold Literal.byte? at hl
  rw [ho, if_pos rfl] at hl
  split at hl
  · cases hl
  · exact (Except.ok.inj hl).symm

theorem takesCharacters_literal (ho : o.utf8 = true) {l : Literal} {r : Regex}
    (hl : l.regex o f = .ok r) : r.TakesCharacters := by
  unfold Literal.regex at hl
  split at hl
  · obtain rfl := Except.ok.inj hl
    trivial
  · obtain ⟨found, hfound, hl⟩ := exists_of_bind_eq_ok hl
    obtain rfl := byte?_eq_ok ho hfound
    obtain rfl := Except.ok.inj hl
    split
    · next hascii =>
      simp only [Bool.and_eq_true, decide_eq_true_eq] at hascii
      exact fun n => le_of_foldAsciiCase (by simpa [IntervalSet.isAscii, IntervalSet.singleton]
        using hascii.2)
    · trivial

theorem takesCharacters_dot (ho : o.utf8 = true) {r : Regex} (hr : dotRegex o f = .ok r) :
    r.TakesCharacters := by
  unfold dotRegex at hr
  dsimp only at hr
  rw [ho, Bool.true_and] at hr
  split at hr
  · cases hr
  · next hunicode =>
    simp only [Bool.not_eq_true', Bool.not_eq_false, Bool.and_eq_true] at hunicode
    have hmember : ∀ s, (f.member s).TakesCharacters := fun s => by
      unfold Flags.member
      rw [if_pos hunicode.1]
      trivial
    split at hr
    · exact Except.ok.inj hr ▸ hmember _
    · split at hr
      · exact Except.ok.inj hr ▸ hmember _
      · split at hr
        · cases hr
        · exact Except.ok.inj hr ▸ hmember _

theorem takesCharacters_meaning (ho : o.utf8 = true) {tree : Tree} {m : Meaning}
    (hm : tree.meaning o f = .ok m) : m.regex.TakesCharacters := by
  induction tree generalizing f m with
  | empty | flags | assertion =>
    obtain rfl := Except.ok.inj hm
    trivial
  | literal l =>
    obtain ⟨r, hr, hm⟩ := exists_of_bind_eq_ok hm
    obtain rfl := Except.ok.inj hm
    exact takesCharacters_literal ho hr
  | dot =>
    obtain ⟨r, hr, hm⟩ := exists_of_bind_eq_ok hm
    obtain rfl := Except.ok.inj hm
    exact takesCharacters_dot ho hr
  | property p =>
    rw [Tree.meaning] at hm
    split at hm
    · obtain ⟨s, _, hm⟩ := exists_of_bind_eq_ok hm
      obtain rfl := Except.ok.inj hm
      trivial
    · cases hm
  | letter c negated =>
    obtain ⟨s, hs, hm⟩ := exists_of_bind_eq_ok hm
    obtain rfl := Except.ok.inj hm
    exact takesCharacters_member ho hs
  | bracket negated body =>
    obtain ⟨_, _, hm⟩ := exists_of_bind_eq_ok hm
    obtain ⟨s, hs, hm⟩ := exists_of_bind_eq_ok hm
    obtain rfl := Except.ok.inj hm
    exact takesCharacters_member ho hs
  | repetition x min max greedy ih =>
    obtain ⟨n, hn, hm⟩ := exists_of_bind_eq_ok hm
    obtain rfl := Except.ok.inj hm
    exact Regex.takesCharacters_ofRep _ _ _ (ih hn)
  | group kind x ih =>
    cases kind with
    | capture | flags =>
      obtain ⟨n, hn, hm⟩ := exists_of_bind_eq_ok hm
      obtain rfl := Except.ok.inj hm
      have htakes := ih hn
      exact htakes
  | cat x rest hx hrest | alt x rest hx hrest =>
    obtain ⟨n, hn, hm⟩ := exists_of_bind_eq_ok hm
    obtain ⟨n', hn', hm⟩ := exists_of_bind_eq_ok hm
    obtain rfl := Except.ok.inj hm
    exact ⟨hx hn, hrest hn'⟩

end Pattern

theorem Parsed.takesCharacters_of_ofTree {o : Pattern.Options} (ho : o.utf8 = true)
    {tree : Pattern.Tree} {p : Parsed} (hp : Parsed.ofTree o tree = .ok p) :
    p.regex.TakesCharacters := by
  obtain ⟨m, hm, hp⟩ := exists_of_bind_eq_ok hp
  obtain rfl := Except.ok.inj hp
  exact Regex.takesCharacters_number 0 (Pattern.takesCharacters_meaning ho hm)

/-- A pattern that is read under options that ask for UTF-8 takes whole characters. -/
theorem Parsed.takesCharacters_of_ofPattern {o : Pattern.Options} (ho : o.utf8 = true)
    {pattern : String} {p : Parsed} (hp : Parsed.ofPattern o pattern = .ok p) :
    p.regex.TakesCharacters := by
  obtain ⟨tree, _, hp⟩ := exists_of_bind_eq_ok hp
  exact Parsed.takesCharacters_of_ofTree ho hp

end Multimatch
