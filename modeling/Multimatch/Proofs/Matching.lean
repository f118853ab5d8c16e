import Mathlib.Data.List.Basic
import Multimatch.Haystack.Span
import Multimatch.Proofs.Encoding
import Multimatch.Regex.Basic

/-!
# What an expression matches

`Regex.Matches` says which stretches of a haystack an expression matches, by its parts and in the
context of the whole haystack. `Regex.ends` lists the places where the matches end that begin at a
place, the preferred one first: the order is that of a search which tries the ways on in order and
goes back to the next one where it fails. `mem_ends_iff` says that the list has just these places.
Both know nothing of threads.

A round of a loop that takes no byte gets nowhere. After the first round a search leaves the loop
then; a later round like that is given up. This has a bearing on the order alone.
-/
namespace Multimatch.Regex

/-! ## Matches -/

/-- So many of something, one after the other. -/
def Times (P : Nat → Nat → Prop) : Nat → Nat → Nat → Prop
  | 0, i, j => i = j
  | n + 1, i, j => ∃ k, P i k ∧ Times P n k j

/-- Whether an expression matches the stretch of the haystack from `i` up to `j`. A repetition's
upper bound that is below the lower one counts as that. -/
def Matches (h : Haystack) : Regex → Nat → Nat → Prop
  | empty, i, j => i = j
  | char s, i, j => ∃ c, Utf8.isScalar c = true ∧ s.contains c = true ∧
      Utf8.encode c <+: h.drop i ∧ j = i + (Utf8.encode c).length
  | byte s, i, j => ∃ b, h[i]? = some b ∧ s.contains b.toNat = true ∧ j = i + 1
  | look l, i, j => i = j ∧ l.holds (h.take i).reverse (h.drop i) = true
  | cat _ x y, i, j => ∃ k, x.Matches h i k ∧ y.Matches h k j
  | alt _ x y, i, j => x.Matches h i j ∨ y.Matches h i j
  | rep _ min max _ x, i, j =>
    ∃ n, min ≤ n ∧ (∀ m, max = some m → n ≤ Nat.max min m) ∧ Times (x.Matches h) n i j

variable {h : Haystack} {P : Nat → Nat → Prop} {i j n : Nat} {r : Regex}

/-- Whether a stretch goes forwards and, if it is not empty, ends within a text of some length. -/
def Forward (n i j : Nat) : Prop := i ≤ j ∧ (i < j → j ≤ n)

theorem Forward.refl (n i : Nat) : Forward n i i := ⟨Nat.le_refl i, fun hlt => absurd hlt (by omega)⟩

theorem Forward.trans {k : Nat} (hik : Forward n i k) (hkj : Forward n k j) : Forward n i j := by
  unfold Forward at *
  omega

/-- What one round carries over is carried over by several. -/
theorem Times.carry {Q : Nat → Prop} (hQ : ∀ i j, Q i → P i j → Q j) {m : Nat}
    (ht : Times P m i j) (hi : Q i) : Q j := by
  induction m generalizing i with
  | zero => exact ht ▸ hi
  | succ m ih =>
    obtain ⟨k, hik, hkj⟩ := ht
    exact ih hkj (hQ i k hi hik)

theorem Times.forward (hP : ∀ i j, P i j → Forward n i j) {m : Nat} (ht : Times P m i j) :
    Forward n i j :=
  ht.carry (Q := Forward n i) (fun k j hk hkj => hk.trans (hP k j hkj)) (Forward.refl n i)

theorem Matches.forward (hm : r.Matches h i j) : Forward h.length i j := by
  induction r generalizing i j with
  | empty => exact (show i = j from hm) ▸ Forward.refl _ i
  | char s =>
    obtain ⟨c, _, _, hc, rfl⟩ := hm
    have hlen := hc.length_le
    rw [List.length_drop] at hlen
    unfold Forward
    omega
  | byte s =>
    obtain ⟨b, hb, _, rfl⟩ := hm
    have hlt := (List.getElem?_eq_some_iff.1 hb).1
    unfold Forward
    omega
  | look l => exact hm.1 ▸ Forward.refl _ i
  | cat _ x y hx hy =>
    obtain ⟨k, hik, hkj⟩ := hm
    exact (hx hik).trans (hy hkj)
  | alt _ x y hx hy => exact hm.elim hx hy
  | rep _ min max greedy x hx =>
    obtain ⟨m, _, _, ht⟩ := hm
    exact ht.forward fun _ _ => hx

theorem Matches.le (hm : r.Matches h i j) : i ≤ j := hm.forward.1

theorem Matches.le_length (hm : r.Matches h i j) (hi : i ≤ h.length) : j ≤ h.length := by
  have hf := hm.forward
  unfold Forward at hf
  omega

/-- An expression that cannot match the empty text takes something. -/
theorem Matches.lt_of_not_nullable (hm : r.Matches h i j) (hr : r.nullable = false) : i < j := by
  induction r generalizing i j with
  | empty | look => cases hr
  | char s =>
    obtain ⟨c, hc, _, _, rfl⟩ := hm
    obtain ⟨b, rest, heq, -⟩ := Utf8.exists_encode_eq_cons hc
    rw [heq, List.length_cons]
    omega
  | byte s =>
    obtain ⟨b, _, _, rfl⟩ := hm
    exact Nat.lt_succ_self i
  | cat _ x y hx hy =>
    obtain ⟨k, hik, hkj⟩ := hm
    rw [nullable, Bool.and_eq_false_iff] at hr
    rcases hr with hr | hr
    · exact Nat.lt_of_lt_of_le (hx hik hr) hkj.le
    · exact Nat.lt_of_le_of_lt hik.le (hy hkj hr)
  | alt _ x y hx hy =>
    rw [nullable, Bool.or_eq_false_iff] at hr
    exact hm.elim (hx · hr.1) (hy · hr.2)
  | rep _ min max greedy x hx =>
    obtain ⟨m, hmin, _, ht⟩ := hm
    rw [nullable, Bool.or_eq_false_iff, decide_eq_false_iff_not] at hr
    obtain ⟨m, rfl⟩ : ∃ m', m = m' + 1 := ⟨m - 1, by omega⟩
    obtain ⟨k, hik, hkj⟩ := ht
    exact Nat.lt_of_lt_of_le (hx hik hr.2) (hkj.forward fun _ _ => Matches.forward).1

theorem Matches.eq_of_zeroWidth (hm : r.Matches h i j) (hr : r.zeroWidth = true) : i = j := by
  induction r generalizing i j with
  | empty => exact hm
  | look => exact hm.1
  | char | byte => cases hr
  | cat _ x y hx hy =>
    obtain ⟨k, hik, hkj⟩ := hm
    rw [zeroWidth, Bool.and_eq_true] at hr
    exact (hx hik hr.1).trans (hy hkj hr.2)
  | alt _ x y hx hy =>
    rw [zeroWidth, Bool.and_eq_true] at hr
    exact hm.elim (hx · hr.1) (hy · hr.2)
  | rep _ min max greedy x hx =>
    obtain ⟨m, hmin, hmax, ht⟩ := hm
    simp only [zeroWidth, Bool.or_eq_true, Bool.and_eq_true, decide_eq_true_eq] at hr
    rcases hr with ⟨rfl, rfl⟩ | hr
    · have hzero := hmax 0 rfl
      obtain rfl : m = 0 := Nat.le_zero.1 hzero
      exact ht
    · exact ht.carry (Q := (i = ·)) (fun k j hk hkj => hk.trans (hx hkj hr)) rfl

/-- Matches of an anchored expression begin at the start. -/
theorem Matches.eq_zero_of_anchored (hm : r.Matches h i j) (hr : r.anchored = true)
    (hi : i ≤ h.length) : i = 0 := by
  induction r generalizing i j with
  | empty | char | byte => cases hr
  | look l =>
    obtain ⟨rfl, hholds⟩ := hm
    obtain rfl : l = .textStart := by simpa [anchored] using hr
    have hnil : (h.take i).reverse = [] := List.isEmpty_iff.1 hholds
    rw [List.reverse_eq_nil_iff, ← List.length_eq_zero_iff, List.length_take] at hnil
    omega
  | cat _ x y hx hy =>
    obtain ⟨k, hik, hkj⟩ := hm
    rw [anchored, Bool.or_eq_true, Bool.and_eq_true] at hr
    rcases hr with hr | ⟨hzero, hr⟩
    · exact hx hik hr hi
    · obtain rfl := hik.eq_of_zeroWidth hzero
      exact hy hkj hr hi
  | alt _ x y hx hy =>
    rw [anchored, Bool.and_eq_true] at hr
    exact hm.elim (hx · hr.1 hi) (hy · hr.2 hi)
  | rep _ min max greedy x hx =>
    obtain ⟨m, hmin, _, ht⟩ := hm
    rw [anchored, Bool.and_eq_true, decide_eq_true_eq] at hr
    obtain ⟨m, rfl⟩ : ∃ m', m = m' + 1 := ⟨m - 1, by omega⟩
    obtain ⟨k, hik, _⟩ := ht
    exact hx hik hr.2 hi

/-! ## Matches in order of preference -/

/-- The ends reached by going on with a loop and those reached by leaving it, in order. -/
def inOrder (greedy : Bool) (again leave : List Nat) : List Nat :=
  if greedy then again ++ leave else leave ++ again

/-- The ends of further rounds in a text of length `n`, where `xs` gives those of one round. A round
that takes no byte is given up. -/
def rounds (n : Nat) (xs : Nat → List Nat) (greedy : Bool) (i : Nat) : List Nat :=
  inOrder greedy ((xs i).flatMap fun j => if _ : i < j ∧ j ≤ n then rounds n xs greedy j else [])
    [i]
termination_by n - i

/-- The ends of a loop that is entered. A first round that takes no byte leaves it. -/
def entered (n : Nat) (xs : Nat → List Nat) (greedy : Bool) (i : Nat) : List Nat :=
  (xs i).flatMap fun j => if i < j then rounds n xs greedy j else [j]

/-- The ends of at least so many rounds. -/
def atLeast (n : Nat) (xs : Nat → List Nat) (greedy : Bool) : Nat → Nat → List Nat
  | 0, i => inOrder greedy (entered n xs greedy i) [i]
  | 1, i => entered n xs greedy i
  | m + 2, i => (xs i).flatMap (atLeast n xs greedy (m + 1))

/-- The ends of at most so many rounds. -/
def atMost (xs : Nat → List Nat) (greedy : Bool) : Nat → Nat → List Nat
  | 0, i => [i]
  | m + 1, i => inOrder greedy ((xs i).flatMap (atMost xs greedy m)) [i]

/-- The ends of at least `min` and at most `max` rounds. -/
def between (xs : Nat → List Nat) (greedy : Bool) : Nat → Nat → Nat → List Nat
  | 0, max, i => atMost xs greedy max i
  | min + 1, max, i => (xs i).flatMap (between xs greedy min (max - 1))

/-- The ends of the matches that begin at a place, the preferred one first. -/
def ends (h : Haystack) : Regex → Nat → List Nat
  | empty, i => [i]
  | char s, i =>
    match Utf8.decodeFirst? (h.drop i) with
    | some c => if s.contains c then [i + (Utf8.encode c).length] else []
    | none => []
  | byte s, i =>
    match h[i]? with
    | some b => if s.contains b.toNat then [i + 1] else []
    | none => []
  | look l, i => if l.holds (h.take i).reverse (h.drop i) then [i] else []
  | cat _ x y, i => (x.ends h i).flatMap (y.ends h)
  | alt _ x y, i => x.ends h i ++ y.ends h i
  | rep _ min none greedy x, i => atLeast h.length (x.ends h) greedy min i
  | rep _ min (some max) greedy x, i => between (x.ends h) greedy min max i

theorem mem_inOrder {greedy : Bool} {again leave : List Nat} :
    j ∈ inOrder greedy again leave ↔ j ∈ again ∨ j ∈ leave := by
  cases greedy <;> simp [inOrder, or_comm]

/-- Several rounds are all empty, or they can be begun with one that is not. -/
theorem Times.cases {m : Nat} (ht : Times P m i j) :
    i = j ∨ ∃ k m', i ≠ k ∧ P i k ∧ Times P m' k j := by
  induction m with
  | zero => exact .inl ht
  | succ m ih =>
    obtain ⟨k, hik, hkj⟩ := ht
    by_cases hk : i = k
    · subst hk
      exact ih hkj
    · exact .inr ⟨k, m, hk, hik, hkj⟩

section Rounds

variable {xs : Nat → List Nat} {greedy : Bool} (hP : ∀ i j, j ∈ xs i ↔ P i j)
  (hf : ∀ i j, P i j → Forward n i j)

include hP hf

/-- Giving up on empty rounds loses no end. -/
theorem mem_rounds : j ∈ rounds n xs greedy i ↔ ∃ m, Times P m i j := by
  induction hn : n - i using Nat.strongRecOn generalizing i with
  | _ left ih =>
  rw [rounds, mem_inOrder, List.mem_flatMap, List.mem_singleton]
  constructor
  · rintro (⟨k, hk, hj⟩ | rfl)
    · split at hj
      · next hlt =>
        obtain ⟨m, ht⟩ := (ih (n - k) (by omega) rfl).1 hj
        exact ⟨m + 1, k, (hP i k).1 hk, ht⟩
      · cases hj
    · exact ⟨0, rfl⟩
  · rintro ⟨m, ht⟩
    rcases ht.cases with rfl | ⟨k, m', hne, hik, hkj⟩
    · exact .inr rfl
    · have hforward := hf i k hik
      unfold Forward at hforward
      have hlt : i < k ∧ k ≤ n := by omega
      refine .inl ⟨k, (hP i k).2 hik, ?_⟩
      rw [dif_pos hlt]
      exact (ih (n - k) (by omega) rfl).2 ⟨m', hkj⟩

theorem mem_entered : j ∈ entered n xs greedy i ↔ ∃ m, 1 ≤ m ∧ Times P m i j := by
  rw [entered, List.mem_flatMap]
  constructor
  · rintro ⟨k, hk, hj⟩
    split at hj
    · obtain ⟨m, ht⟩ := (mem_rounds hP hf).1 hj
      exact ⟨m + 1, by omega, k, (hP i k).1 hk, ht⟩
    · exact ⟨1, Nat.le_refl 1, k, (hP i k).1 hk, (List.mem_singleton.1 hj).symm⟩
  · rintro ⟨m, hm, ht⟩
    obtain ⟨m, rfl⟩ : ∃ m', m = m' + 1 := ⟨m - 1, by omega⟩
    obtain ⟨k, hik, hkj⟩ := ht
    have hgo : ∀ k m, i ≠ k → P i k → Times P m k j →
        ∃ k ∈ xs i, j ∈ if i < k then rounds n xs greedy k else [k] := by
      intro k m hne hik hkj
      have hforward := (hf i k hik).1
      refine ⟨k, (hP i k).2 hik, ?_⟩
      rw [if_pos (by omega)]
      exact (mem_rounds hP hf).2 ⟨m, hkj⟩
    by_cases hk : i = k
    · subst hk
      rcases hkj.cases with rfl | ⟨k, m', hne, hik', hkj'⟩
      · refine ⟨i, (hP i i).2 hik, ?_⟩
        rw [if_neg (Nat.lt_irrefl i)]
        exact List.mem_singleton_self i
      · exact hgo k m' hne hik' hkj'
    · exact hgo k m hk hik hkj

theorem mem_atLeast {min : Nat} :
    j ∈ atLeast n xs greedy min i ↔ ∃ m, min ≤ m ∧ Times P m i j := by
  induction min generalizing i with
  | zero =>
    rw [atLeast, mem_inOrder, mem_entered hP hf, List.mem_singleton]
    constructor
    · rintro (⟨m, _, ht⟩ | rfl)
      · exact ⟨m, Nat.zero_le m, ht⟩
      · exact ⟨0, Nat.le_refl 0, rfl⟩
    · rintro ⟨m, _, ht⟩
      cases m with
      | zero => exact .inr ht.symm
      | succ m => exact .inl ⟨m + 1, by omega, ht⟩
  | succ min ih =>
    cases min with
    | zero => exact mem_entered hP hf
    | succ min =>
      rw [atLeast, List.mem_flatMap]
      constructor
      · rintro ⟨k, hk, hj⟩
        obtain ⟨m, hm, ht⟩ := ih.1 hj
        exact ⟨m + 1, by omega, k, (hP i k).1 hk, ht⟩
      · rintro ⟨m, hm, ht⟩
        obtain ⟨m, rfl⟩ : ∃ m', m = m' + 1 := ⟨m - 1, by omega⟩
        obtain ⟨k, hik, hkj⟩ := ht
        exact ⟨k, (hP i k).2 hik, ih.2 ⟨m, by omega, hkj⟩⟩

omit hf

theorem mem_atMost {max : Nat} : j ∈ atMost xs greedy max i ↔ ∃ m, m ≤ max ∧ Times P m i j := by
  induction max generalizing i with
  | zero =>
    rw [atMost, List.mem_singleton]
    constructor
    · rintro rfl
      exact ⟨0, Nat.le_refl 0, rfl⟩
    · rintro ⟨m, hm, ht⟩
      obtain rfl : m = 0 := Nat.le_zero.1 hm
      exact ht.symm
  | succ max ih =>
    rw [atMost, mem_inOrder, List.mem_flatMap, List.mem_singleton]
    constructor
    · rintro (⟨k, hk, hj⟩ | rfl)
      · obtain ⟨m, hm, ht⟩ := ih.1 hj
        exact ⟨m + 1, by omega, k, (hP i k).1 hk, ht⟩
      · exact ⟨0, Nat.zero_le _, rfl⟩
    · rintro ⟨m, hm, ht⟩
      cases m with
      | zero => exact .inr ht.symm
      | succ m =>
        obtain ⟨k, hik, hkj⟩ := ht
        exact .inl ⟨k, (hP i k).2 hik, ih.2 ⟨m, by omega, hkj⟩⟩

theorem mem_between {min max : Nat} : j ∈ between xs greedy min max i ↔
    ∃ m, min ≤ m ∧ m ≤ Nat.max min max ∧ Times P m i j := by
  induction min generalizing i max with
  | zero =>
    have hmax : Nat.max 0 max = max := Nat.max_eq_right (Nat.zero_le max)
    rw [between, mem_atMost hP, hmax]
    simp only [Nat.zero_le, true_and]
  | succ min ih =>
    have hmax : Nat.max (min + 1) max = Nat.max min (max - 1) + 1 := by
      change Max.max (min + 1) max = Max.max min (max - 1) + 1
      omega
    rw [between, List.mem_flatMap, hmax]
    constructor
    · rintro ⟨k, hk, hj⟩
      obtain ⟨m, hlo, hhi, ht⟩ := ih.1 hj
      exact ⟨m + 1, by omega, by omega, k, (hP i k).1 hk, ht⟩
    · rintro ⟨m, hlo, hhi, ht⟩
      obtain ⟨m, rfl⟩ : ∃ m', m = m' + 1 := ⟨m - 1, by omega⟩
      obtain ⟨k, hik, hkj⟩ := ht
      exact ⟨k, (hP i k).2 hik, ih.2 ⟨m, by omega, by omega, hkj⟩⟩

end Rounds

/-- The places listed are those where a match ends. -/
theorem mem_ends_iff : j ∈ r.ends h i ↔ r.Matches h i j := by
  induction r generalizing i j with
  | empty => rw [ends, List.mem_singleton, Matches, eq_comm]
  | char s =>
    rw [ends, Matches]
    constructor
    · intro hj
      split at hj
      · next c hc =>
        split at hj
        · next hs =>
          obtain ⟨hscalar, hprefix⟩ := Utf8.decodeFirst?_eq_some_iff.1 hc
          exact ⟨c, hscalar, hs, hprefix, List.mem_singleton.1 hj⟩
        · cases hj
      · cases hj
    · rintro ⟨c, hscalar, hs, hprefix, rfl⟩
      rw [Utf8.decodeFirst?_eq_some_iff.2 ⟨hscalar, hprefix⟩]
      simp only [hs, if_true, List.mem_singleton]
  | byte s =>
    rw [ends, Matches]
    cases h[i]? with
    | none => simp
    | some b => cases hs : s.contains b.toNat <;> simp [hs]
  | look l =>
    rw [ends, Matches]
    cases hl : l.holds (h.take i).reverse (h.drop i) <;> simp [eq_comm]
  | cat _ x y hx hy => simp only [ends, Matches, List.mem_flatMap, hx, hy]
  | alt _ x y hx hy => simp only [ends, Matches, List.mem_append, hx, hy]
  | rep _ min max greedy x hx =>
    cases max with
    | none =>
      rw [ends, mem_atLeast (fun i j => hx) fun _ _ => Matches.forward, Matches]
      simp
    | some max =>
      rw [ends, mem_between fun i j => hx, Matches]
      simp

/-- The ends of one round are not too far for the next. -/
theorem rounds_eq (h : Haystack) (r : Regex) (greedy : Bool) (i : Nat) :
    rounds h.length (r.ends h) greedy i = inOrder greedy
      ((r.ends h i).flatMap fun j => if i < j then rounds h.length (r.ends h) greedy j else [])
      [i] := by
  rw [rounds]
  congr 1
  refine List.flatMap_congr fun j hj => ?_
  have hforward := (mem_ends_iff.1 hj).forward
  unfold Forward at hforward
  split <;> split <;> first | rfl | omega

theorem le_of_mem_rounds {greedy : Bool} (hj : j ∈ rounds h.length (r.ends h) greedy i) :
    i ≤ j := by
  have hforward : ∀ i j, j ∈ r.ends h i → Forward h.length i j :=
    fun _ _ hj => (mem_ends_iff.1 hj).forward
  obtain ⟨m, ht⟩ := (mem_rounds (fun _ _ => Iff.rfl) hforward).1 hj
  exact (ht.forward hforward).1

instance (h : Haystack) (r : Regex) (i j : Nat) : Decidable (r.Matches h i j) :=
  decidable_of_iff _ mem_ends_iff

end Multimatch.Regex
