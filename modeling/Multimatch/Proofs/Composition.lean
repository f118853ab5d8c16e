import Mathlib.Data.List.Sort
import Mathlib.Logic.Equiv.Basic
import Multimatch.Proofs.Exactness

/-!
# Sets compose

Over an engine whose combined matcher agrees with the patterns alone, what a set finds under an
index is settled by the pattern at that index, whatever the other patterns are. So the patterns of
two sets, one list after the other, are found as they are in each of them, and patterns in another
order are found under other indices.
-/
namespace Multimatch

/-! ## Indices of patterns -/

/-- The indices, in ascending order, at which a list has patterns of some kind. -/
structure Marks (P : String → Prop) (ps : List String) (is : List Nat) : Prop where
  ascending : is.Pairwise (· < ·)
  mem_iff : ∀ i, i ∈ is ↔ ∃ p, ps[i]? = some p ∧ P p

/-- The places of patterns in one list are sent to their places in another. -/
def Rearranges (σ : Equiv.Perm Nat) (ps rs : List String) : Prop := ∀ i, rs[σ i]? = ps[i]?

section Marks

variable {P : String → Prop} {ps qs rs : List String} {is js : List Nat} {σ τ : Equiv.Perm Nat}

theorem Marks.unique (his : Marks P ps is) (hjs : Marks P ps js) : is = js :=
  his.ascending.eq_of_mem_iff hjs.ascending fun i => (his.mem_iff i).trans (hjs.mem_iff i).symm

theorem Marks.lt_length (his : Marks P ps is) {i : Nat} (hi : i ∈ is) : i < ps.length := by
  obtain ⟨p, hp, -⟩ := (his.mem_iff i).1 hi
  exact (List.getElem?_eq_some_iff.1 hp).1

/-- Of two lists, one after the other, the indices of the second are raised. -/
theorem Marks.append (his : Marks P ps is) (hjs : Marks P qs js) :
    Marks P (ps ++ qs) (is ++ js.map (· + ps.length)) where
  ascending := by
    have hraised : (js.map (· + ps.length)).Pairwise (· < ·) :=
      hjs.ascending.map _ fun _ _ hlt => Nat.add_lt_add_right hlt _
    refine List.pairwise_append.2 ⟨his.ascending, hraised, ?_⟩
    intro i hi j hj
    obtain ⟨k, -, rfl⟩ := List.mem_map.1 hj
    exact Nat.lt_add_left k (his.lt_length hi)
  mem_iff i := by
    rw [List.mem_append, List.mem_map]
    rcases Nat.lt_or_ge i ps.length with hlt | hge
    · rw [List.getElem?_append_left hlt, ← his.mem_iff]
      refine or_iff_left ?_
      rintro ⟨k, -, rfl⟩
      omega
    · rw [List.getElem?_append_right hge, ← hjs.mem_iff]
      constructor
      · rintro (hi | ⟨k, hk, rfl⟩)
        · exact absurd (his.lt_length hi) (Nat.not_lt.2 hge)
        · rwa [Nat.add_sub_cancel]
      · exact fun hi => .inr ⟨i - ps.length, hi, Nat.sub_add_cancel hge⟩

/-- In another order, the patterns have other indices. -/
theorem Marks.rearrange (his : Marks P ps is) (hσ : Rearranges σ ps rs) :
    Marks P rs (is.map σ).mergeSort where
  ascending := by
    have hnodup : (is.map σ).mergeSort.Nodup := by
      rw [(List.mergeSort_perm _ _).nodup_iff]
      exact his.ascending.nodup.map σ.injective
    have hsorted := List.pairwise_mergeSort' (· ≤ ·) (is.map σ)
    exact (hsorted.and hnodup).imp fun hi => Nat.lt_of_le_of_ne hi.1 hi.2
  mem_iff i := by
    have hplace : rs[i]? = ps[σ.symm i]? := by rw [← hσ, σ.apply_symm_apply]
    rw [List.mem_mergeSort, hplace, ← his.mem_iff, List.mem_map]
    constructor
    · rintro ⟨k, hk, rfl⟩
      rwa [σ.symm_apply_apply]
    · exact fun hi => ⟨σ.symm i, hi, σ.apply_symm_apply i⟩

/-- A pattern that is in the list more than once has all of its indices or none. -/
theorem Marks.mem_iff_of_same (his : Marks P ps is) {i j : Nat} {p : String} (hi : ps[i]? = some p)
    (hj : ps[j]? = some p) : i ∈ is ↔ j ∈ is := by
  rw [his.mem_iff, his.mem_iff, hi, hj]

theorem Rearranges.trans (hσ : Rearranges σ ps qs) (hτ : Rearranges τ qs rs) :
    Rearranges (σ.trans τ) ps rs :=
  fun i => (hτ (σ i)).trans (hσ i)

/-- The first place stays, and the others are sent on as before. -/
def keepFirst (σ : Equiv.Perm Nat) : Equiv.Perm Nat where
  toFun
    | 0 => 0
    | i + 1 => σ i + 1
  invFun
    | 0 => 0
    | i + 1 => σ.symm i + 1
  left_inv := by rintro (_ | i) <;> simp
  right_inv := by rintro (_ | i) <;> simp

theorem Rearranges.cons (hσ : Rearranges σ ps rs) (p : String) :
    Rearranges (keepFirst σ) (p :: ps) (p :: rs)
  | 0 => rfl
  | i + 1 => hσ i

theorem rearranges_swap (p q : String) (ps : List String) :
    Rearranges (Equiv.swap 0 1) (q :: p :: ps) (p :: q :: ps) := by
  rintro (_ | _ | i)
  · rw [Equiv.swap_apply_left]
    rfl
  · rw [Equiv.swap_apply_right]
    rfl
  · rw [Equiv.swap_apply_of_ne_of_ne (by omega) (by omega)]
    rfl

/-- Whatever the order, every pattern has a place of its own. -/
theorem exists_rearranges (hperm : ps.Perm rs) : ∃ σ, Rearranges σ ps rs := by
  induction hperm with
  | nil => exact ⟨Equiv.refl Nat, fun _ => rfl⟩
  | cons p _ ih =>
    obtain ⟨σ, hσ⟩ := ih
    exact ⟨keepFirst σ, hσ.cons p⟩
  | swap p q ps => exact ⟨Equiv.swap 0 1, rearranges_swap p q ps⟩
  | trans _ _ ih ih' =>
    obtain ⟨σ, hσ⟩ := ih
    obtain ⟨τ, hτ⟩ := ih'
    exact ⟨σ.trans τ, hσ.trans hτ⟩

end Marks

namespace Engine

variable {E : Engine}

/-- The first match of the pattern, by its own handle, is as the anchor asks. -/
def HitBy (E : Engine) (anchor : Anchor) (h : Haystack) (p : String) : Prop :=
  ∃ single span, E.compileSingle p = .ok single ∧ E.findFirst single h = .ok (some span) ∧
    anchor.Covers span h

/-- All the patterns are accepted, and the set of them compiles. -/
structure Builds (E : Engine) (anchor : Anchor) (ps : List String) : Prop where
  accepted : ∀ p ∈ ps, E.compilesAlone p = true
  compiles : ((PatternSet.new E anchor).after (ps.map .add)).compile.answer = .ok ()

end Engine

namespace PatternSet

variable {E : Engine} {anchor : Anchor} {ps qs : List String}

/-- The compiled set of some patterns, added one after another. -/
def built (E : Engine) (anchor : Anchor) (ps : List String) : PatternSet E :=
  ((new E anchor).after (ps.map .add)).compile.set

theorem reachable_built (E : Engine) (anchor : Anchor) (ps : List String) :
    (built E anchor ps).Reachable :=
  ((Reachable.new anchor).after _).perform .compile

theorem isCompiled_built (hps : E.Builds anchor ps) :
    (built E anchor ps).isCompiled = true ∧ (built E anchor ps).anchor = anchor ∧
      (built E anchor ps).patterns = ps := by
  obtain ⟨-, hanchor, hpatterns⟩ := after_adds (s := new E anchor) rfl ps
  obtain ⟨hcompiled, hanchor', hpatterns'⟩ := compile_eq_ok hps.compiles
  refine ⟨hcompiled, hanchor'.trans hanchor, hpatterns'.trans ?_⟩
  rw [hpatterns, List.filter_eq_self.2 hps.accepted]
  rfl

section Exact

variable {h : Haystack}

/-- A compiled set finds the patterns that are hit, each for itself. -/
theorem Consistent.exists_marks {s : PatternSet E} (hs : s.Consistent) (inserts : E.OnlyInserts)
    (exact : E.ExactOn h) (hc : s.isCompiled = true) :
    ∃ is, (s.matchesOf h).answer = .ok ⟨is⟩ ∧ Marks (E.HitBy s.anchor h) s.patterns is := by
  obtain ⟨combined, scratch, hstage⟩ := isCompiled_iff.1 hc
  obtain ⟨is, hok, hasc, hmem⟩ := hs.matchesOf_of_exact inserts exact hstage
  refine ⟨is, hok, hasc, ?_⟩
  intro i
  simp only [hmem, Hits, Engine.HitBy, exists_and_left]

theorem exists_marks_built (inserts : E.OnlyInserts) (exact : E.ExactOn h)
    (hps : E.Builds anchor ps) :
    ∃ is, ((built E anchor ps).matchesOf h).answer = .ok ⟨is⟩ ∧ Marks (E.HitBy anchor h) ps is := by
  obtain ⟨hcompiled, hanchor, hpatterns⟩ := isCompiled_built hps
  have hs := (reachable_built E anchor ps).consistent inserts
  obtain ⟨is, hok, hmarks⟩ := hs.exists_marks inserts exact hcompiled
  rw [hanchor, hpatterns] at hmarks
  exact ⟨is, hok, hmarks⟩

/-- A set finds what is marked. -/
theorem matchesOf_built {is : List Nat} (inserts : E.OnlyInserts) (exact : E.ExactOn h)
    (hps : E.Builds anchor ps) (his : Marks (E.HitBy anchor h) ps is) :
    ((built E anchor ps).matchesOf h).answer = .ok ⟨is⟩ := by
  obtain ⟨js, hok, hjs⟩ := exists_marks_built inserts exact hps
  rw [hok, hjs.unique his]

end Exact

/-- Over an engine that finds patterns together as it finds them alone, the set of two lists of
patterns, one after the other, finds what the set of the first one finds and, under raised indices,
what the set of the second one finds. In another order, the same patterns are found under the
indices that they have there. A pattern that was added more than once is found under all of its
indices or none. -/
theorem sets_compose (exact : ∀ h, E.ExactOn h) (hps : E.Builds anchor ps)
    (hqs : E.Builds anchor qs) (h : Haystack) :
    ∃ is js : List Nat,
      ((built E anchor ps).matchesOf h).answer = .ok ⟨is⟩ ∧
      ((built E anchor qs).matchesOf h).answer = .ok ⟨js⟩ ∧
      (E.Builds anchor (ps ++ qs) → ((built E anchor (ps ++ qs)).matchesOf h).answer =
        .ok ⟨is ++ js.map (· + ps.length)⟩) ∧
      (∀ rs, ps.Perm rs → E.Builds anchor rs →
        (∃ σ, Rearranges σ ps rs) ∧
          ∀ σ, Rearranges σ ps rs →
            ((built E anchor rs).matchesOf h).answer = .ok ⟨(is.map σ).mergeSort⟩) ∧
      ∀ i j p, ps[i]? = some p → ps[j]? = some p → (i ∈ is ↔ j ∈ is) := by
  have inserts := Engine.onlyInserts_of_exactOn exact
  obtain ⟨is, hok, his⟩ := exists_marks_built inserts (exact h) hps
  obtain ⟨js, hok', hjs⟩ := exists_marks_built inserts (exact h) hqs
  refine ⟨is, js, hok, hok', ?_, ?_, ?_⟩
  · intro hboth
    exact matchesOf_built inserts (exact h) hboth (his.append hjs)
  · intro rs hperm hrs
    refine ⟨exists_rearranges hperm, ?_⟩
    intro σ hσ
    exact matchesOf_built inserts (exact h) hrs (his.rearrange hσ)
  · intro i j p hi hj
    exact his.mem_iff_of_same hi hj

/-- The second "a" of the first list is found whenever the first one is. -/
theorem repeated_pattern_composed :
    (∀ h, (Tabulated.engine oneRefused).ExactOn h) ∧
      (Tabulated.engine oneRefused).Builds .start ["a", "b", "a"] ∧
      (Tabulated.engine oneRefused).Builds .start ["c", "a"] ∧
      (Tabulated.engine oneRefused).Builds .start ["a", "b", "a", "c", "a"] ∧
      (Tabulated.engine oneRefused).Builds .start ["b", "a", "a"] ∧
      Rearranges (Equiv.swap 0 1) ["a", "b", "a"] ["b", "a", "a"] ∧
      ((built (Tabulated.engine oneRefused) .start ["a", "b", "a", "c", "a"]).matchesOf
        [97, 98]).answer = .ok ⟨[0, 2, 4]⟩ ∧
      ((built (Tabulated.engine oneRefused) .start ["b", "a", "a"]).matchesOf
        [97, 98]).answer = .ok ⟨[1, 2]⟩ := by
  have exact := oneRefused_coherent.exact.on
  have hps : (Tabulated.engine oneRefused).Builds .start ["a", "b", "a"] := ⟨by decide, rfl⟩
  have hqs : (Tabulated.engine oneRefused).Builds .start ["c", "a"] := ⟨by decide, rfl⟩
  have hboth : (Tabulated.engine oneRefused).Builds .start ["a", "b", "a", "c", "a"] :=
    ⟨by decide, rfl⟩
  have hrs : (Tabulated.engine oneRefused).Builds .start ["b", "a", "a"] := ⟨by decide, rfl⟩
  have hσ := rearranges_swap "b" "a" ["a"]
  obtain ⟨is, js, hok, hok', happended, hmoved, -⟩ := sets_compose exact hps hqs [97, 98]
  have his : is = [0, 2] := (Matches.mk.inj (Except.ok.inj hok)).symm
  have hjs : js = [1] := (Matches.mk.inj (Except.ok.inj hok')).symm
  obtain ⟨-, hmoved⟩ := hmoved ["b", "a", "a"] (.swap "b" "a" ["a"]) hrs
  have happended := happended hboth
  have hmoved := hmoved _ hσ
  rw [his, hjs] at happended
  rw [his] at hmoved
  have hsorted : ([0, 2].map (Equiv.swap 0 1)).mergeSort = [1, 2] :=
    List.mergeSort_eq_self (· ≤ ·) (by decide)
  rw [hsorted] at hmoved
  exact ⟨exact, hps, hqs, hboth, hrs, hσ, happended, hmoved⟩

end PatternSet

end Multimatch
