import Multimatch.Proofs.Searching

/-!
# The answers of compiled sets

A failure of the engine is answered as a failure, and with the engine's own words: the first one in
the order of the indices. Every other answer is a result, and the lemmas say which. The combined
matcher may insert indices in any order, more than once, and before it fails.
-/
namespace Multimatch

theorem stopsAfter_congr {pass stop : Nat → Prop} {indices indices' : List Nat}
    (hmem : ∀ i, i ∈ indices ↔ i ∈ indices') :
    StopsAfter pass stop indices ↔ StopsAfter pass stop indices' := by
  simp only [StopsAfter, hmem]

namespace PatternSet

variable {E : Engine} {s : PatternSet E} {combined : E.Combined} {scratch : Scratch} {h : Haystack}

namespace Consistent

theorem matchesOf_eq_error_iff (hs : s.Consistent) (inserts : E.OnlyInserts)
    (hstage : s.stage = .compiled combined scratch) {error : Error} :
    (s.matchesOf h).answer = .error error ↔ ∃ e, error = .matchEngine e ∧
      ((s.pass combined h).2 = .error e ∨ (s.pass combined h).2 = .ok () ∧
        s.anchor ≠ .unanchored ∧
          StopsAfter (s.Settles h) (s.FailsWith h · e) (s.candidates combined h)) := by
  rw [hs.matchesOf_eq hstage, finish_eq_error_iff]
  simp only [foundBy_eq_error_iff]
  cases hspan : s.anchor.needsSpan with
  | false =>
    have hanchor := s.anchor.needsSpan_eq_false_iff.1 hspan
    simp only [goAll_unanchored hspan, hanchor, ne_eq, not_true_eq_false, false_and, and_false,
      reduceCtorEq]
  | true =>
    have hanchor := s.anchor.needsSpan_iff.1 hspan
    have hh := hs.holds_candidates inserts hstage hspan h
    have hasc := s.pairwise_candidates combined h
    simp only [goAll_eq_error_iff hspan, acceptedOf_eq_error_iff hasc hh, hanchor, ne_eq,
      not_false_eq_true, true_and]

theorem matchesOf_eq_ok (hs : s.Consistent) (inserts : E.OnlyInserts)
    (hstage : s.stage = .compiled combined scratch) {m : Matches}
    (hok : (s.matchesOf h).answer = .ok m) :
    (s.pass combined h).2 = .ok () ∧ m.indices.Pairwise (· < ·) ∧
      ∀ i, i ∈ m.indices ↔
        i ∈ s.candidates combined h ∧ (s.anchor = .unanchored ∨ s.Accepts h i) := by
  rw [hs.matchesOf_eq hstage, finish_eq_ok_iff, foundBy_eq_ok_iff] at hok
  obtain ⟨hpass, hgo⟩ := hok
  have hasc := s.pairwise_candidates combined h
  refine ⟨hpass, ?_⟩
  cases hspan : s.anchor.needsSpan with
  | false =>
    rw [goAll_unanchored hspan] at hgo
    obtain rfl := Except.ok.inj hgo
    have hanchor := s.anchor.needsSpan_eq_false_iff.1 hspan
    exact ⟨hasc, fun i => by simp only [hanchor, true_or, and_true]⟩
  | true =>
    have hanchor := s.anchor.needsSpan_iff.1 hspan
    have hh := hs.holds_candidates inserts hstage hspan h
    obtain ⟨_, hsub, hmem⟩ := acceptedOf_eq_ok hh ((goAll_eq_ok_iff hspan _).1 hgo)
    exact ⟨hasc.sublist hsub, fun i => by simp only [hmem, hanchor, false_or]⟩

theorem isMatch_eq_false_iff (hs : s.Consistent) (inserts : E.OnlyInserts)
    (hstage : s.stage = .compiled combined scratch) (anchored : s.anchor ≠ .unanchored) :
    (s.isMatch h).answer = .ok false ↔
      (s.pass combined h).2 = .ok () ∧ ∀ c ∈ s.candidates combined h, s.Rejects h c := by
  have hspan := s.anchor.needsSpan_iff.2 anchored
  have hh := hs.holds_candidates inserts hstage hspan h
  rw [hs.isMatch_eq hstage hspan, finish_eq_ok_iff, foundBy_eq_ok_iff,
    anyAcceptedOf_eq_false_iff hh]

end Consistent

/-- A compiled set answers a search with the engine's first failure in the order of the indices, or
with a result; here `inserted` are the indices that the combined matcher inserts. -/
theorem compiled_search_answers (reached : s.Reachable) (inserts : E.OnlyInserts)
    (hstage : s.stage = .compiled combined scratch) {inserted : List Nat}
    {done : Except MatchError Unit}
    (hpass : E.whichMatch combined h (.new s.size) =
      ((Candidates.new s.size).insertAll inserted, done))
    (hfit : ∀ i ∈ inserted, i < s.size) :
    (∀ error, (s.matchesOf h).answer = .error error ↔ ∃ e, error = .matchEngine e ∧
        (done = .error e ∨ done = .ok () ∧ s.anchor ≠ .unanchored ∧
          ∃ c ∈ inserted, s.FailsWith h c e ∧ ∀ b ∈ inserted, b < c → s.Settles h b)) ∧
      (∀ m, (s.matchesOf h).answer = .ok m → m.indices.Pairwise (· < ·) ∧
        ∀ i, i ∈ m.indices ↔ i ∈ inserted ∧ (s.anchor = .unanchored ∨ s.Accepts h i)) ∧
      (s.anchor ≠ .unanchored → ((s.isMatch h).answer = .ok false ↔
        done = .ok () ∧ ∀ c ∈ inserted, s.Rejects h c)) ∧
      (s.anchor = .unanchored →
        (s.isMatch h).answer = (E.isMatch combined h).mapError .matchEngine) := by
  have hs := reached.consistent inserts
  have hdone : (s.pass combined h).2 = done := by rw [pass, hpass]
  have hmem : ∀ i, i ∈ s.candidates combined h ↔ i ∈ inserted := fun i =>
    mem_candidates hpass hfit
  refine ⟨fun error => ?_, fun m hm => ?_, fun anchored => ?_, fun hanchor => ?_⟩
  · rw [hs.matchesOf_eq_error_iff inserts hstage, hdone]
    simp only [stopsAfter_congr hmem]
    rfl
  · obtain ⟨_, hasc, hkept⟩ := hs.matchesOf_eq_ok inserts hstage hm
    exact ⟨hasc, fun i => by rw [hkept, hmem]⟩
  · rw [hs.isMatch_eq_false_iff inserts hstage anchored, hdone]
    simp only [hmem]
  · rw [isMatch_unanchored hstage (s.anchor.needsSpan_eq_false_iff.2 hanchor)]
    rfl

/-- The answers of an engine that fails, in two ways, for two of three candidates. -/
def twoFail : Tabulated.Answers where
  rules := [⟨"a", none, .ok true, .ok none⟩, ⟨"b", none, .ok true, .error (.quit 98 1)⟩,
    ⟨"c", none, .ok true, .error (.gaveUp 2)⟩]

def twoFailSet : PatternSet (Tabulated.engine twoFail) :=
  (new _ .both).after [.add "a", .add "b", .add "c", .compile]

theorem first_of_two_failures_answered :
    twoFailSet.Reachable ∧ (Tabulated.engine twoFail).OnlyInserts ∧
      twoFailSet.stage = .compiled ["a", "b", "c"] (.new 3) ∧
      (Tabulated.engine twoFail).whichMatch ["a", "b", "c"] [98, 99] (.new twoFailSet.size) =
        ((Candidates.new twoFailSet.size).insertAll [0, 1, 2], .ok ()) ∧
      (∀ i ∈ [0, 1, 2], i < twoFailSet.size) ∧
      (twoFailSet.matchesOf [98, 99]).answer = .error (.matchEngine (.quit 98 1)) := by
  have reached : twoFailSet.Reachable := (Reachable.new .both).after _
  have inserts := Tabulated.onlyInserts twoFail
  have hstage : twoFailSet.stage = .compiled ["a", "b", "c"] (.new 3) := rfl
  have hpass : (Tabulated.engine twoFail).whichMatch ["a", "b", "c"] [98, 99]
      (.new twoFailSet.size) = ((Candidates.new twoFailSet.size).insertAll [0, 1, 2], .ok ()) := rfl
  have hfit : ∀ i ∈ [0, 1, 2], i < twoFailSet.size := by decide
  refine ⟨reached, inserts, hstage, hpass, hfit, ?_⟩
  obtain ⟨herror, -⟩ := compiled_search_answers reached inserts hstage hpass hfit
  rw [herror]
  refine ⟨_, rfl, .inr ⟨rfl, by decide, 1, by decide, rfl, fun b _ hlt => ?_⟩⟩
  obtain rfl := Nat.lt_one_iff.1 hlt
  exact ⟨none, rfl⟩

end PatternSet

end Multimatch
