import Multimatch.Proofs.Ordering

/-!
# Results in canonical form

A result lists indices in ascending order, each of them once, whatever the combined matcher does to
its buffer: a buffer is read in ascending order, and a loop over candidates only leaves some of them
out. So halving finds an index in a result exactly if it is there, and a result is known by what it
says of each index.
-/
namespace Multimatch

/-- What a search for all matches may be answered with, or a result without a search. -/
inductive Matches.IsResult : Matches → Prop
  | default : IsResult default
  | found {E : Engine} {s : PatternSet E} {h : Haystack} {m : Matches} :
    s.Reachable → (s.matchesOf h).answer = .ok m → IsResult m

namespace PatternSet

variable {E : Engine} {s : PatternSet E} {h : Haystack} {m : Matches}

theorem goAll_sublist {indices : List Nat} (hok : (s.goAll h indices).answer = .ok m) :
    m.toList.Sublist indices := by
  cases hspan : s.anchor.needsSpan with
  | false =>
    rw [goAll_unanchored hspan] at hok
    obtain rfl := Except.ok.inj hok
    exact .refl indices
  | true => exact acceptedOf_sublist ((goAll_eq_ok_iff hspan indices).1 hok)

/-- A result has no indices but those in the buffer that the combined matcher was lent. -/
theorem matchesOf_sublist {combined : E.Combined} {scratch : Scratch}
    (hstage : s.stage = .compiled combined scratch) (hok : (s.matchesOf h).answer = .ok m) :
    m.toList.Sublist (E.whichMatch combined h scratch.lend.1.clear).1.toList := by
  obtain ⟨found, done, hpass⟩ : ∃ found done,
      E.whichMatch combined h scratch.lend.1.clear = (found, done) := ⟨_, _, rfl⟩
  rw [matchesOf_compiled hstage, withCandidates_of_pass hpass, finish_eq_ok_iff] at hok
  rw [hpass]
  cases done with
  | error e => cases hok
  | ok _ => exact goAll_sublist hok

theorem pairwise_of_matchesOf (hok : (s.matchesOf h).answer = .ok m) :
    m.toList.Pairwise (· < ·) := by
  cases hc : s.isCompiled with
  | false =>
    rw [matchesOf_early hc] at hok
    cases hok
  | true =>
    obtain ⟨combined, scratch, hstage⟩ := isCompiled_iff.1 hc
    exact (Candidates.pairwise_toList _).sublist (matchesOf_sublist hstage hok)

/-- If buffers keep their size, the indices of a result are those of patterns. -/
theorem Consistent.lt_size_of_matchesOf (hs : s.Consistent) (keeps : E.KeepsCapacity)
    (hok : (s.matchesOf h).answer = .ok m) : ∀ i ∈ m.toList, i < s.size := by
  cases hc : s.isCompiled with
  | false =>
    rw [matchesOf_early hc] at hok
    cases hok
  | true =>
    obtain ⟨combined, scratch, hstage⟩ := isCompiled_iff.1 hc
    have hclear := (hs.compiled combined scratch hstage).2.clear_lend
    have hsublist := matchesOf_sublist hstage hok
    rw [hclear] at hsublist
    intro i hi
    have hlt := Candidates.lt_capacity_of_mem (hsublist.subset hi)
    rwa [hs.whichMatch_capacity keeps hstage] at hlt

end PatternSet

namespace Matches

variable {m m' : Matches}

theorem IsResult.pairwise (hm : m.IsResult) : m.toList.Pairwise (· < ·) := by
  cases hm with
  | default => exact .nil
  | found _ hok => exact PatternSet.pairwise_of_matchesOf hok

theorem IsResult.matched_iff (hm : m.IsResult) (i : Nat) : m.matched i = true ↔ i ∈ m.toList :=
  ascendingContains_iff hm.pairwise

/-- Results that say the same of each index are the same. -/
theorem IsResult.ext (hm : m.IsResult) (hm' : m'.IsResult)
    (hsame : ∀ i, m.matched i = m'.matched i) : m = m' := by
  have hmem : ∀ i, i ∈ m.toList ↔ i ∈ m'.toList := by
    intro i
    rw [← hm.matched_iff, ← hm'.matched_iff, hsame]
  have heq : m.indices = m'.indices := hm.pairwise.eq_of_mem_iff hm'.pairwise hmem
  cases m
  cases m'
  exact congrArg mk heq

/-- A result is in canonical form: its indices ascend, and those of a set whose buffers keep their
size are below the number of its patterns; halving tells which they are; and two results, wherever
they come from, are the same exactly if they say the same of each index. -/
theorem results_canonical (hm : m.IsResult) (hm' : m'.IsResult) :
    m.toList.Pairwise (· < ·) ∧
      (∀ (E : Engine) (s : PatternSet E) (h : Haystack), E.KeepsCapacity → s.Reachable →
        (s.matchesOf h).answer = .ok m → ∀ i ∈ m.toList, i < s.size) ∧
      (∀ i, m.matched i = true ↔ i ∈ m.toList) ∧
      (m = m' ↔ ∀ i, m.matched i = m'.matched i) := by
  refine ⟨hm.pairwise, ?_, hm.matched_iff, ?_⟩
  · intro E s h keeps reached hok
    exact (reached.consistent_of_keeps keeps).lt_size_of_matchesOf keeps hok
  · constructor
    · intro heq i
      rw [heq]
    · exact hm.ext hm'

/-- An engine that takes every pattern and inserts two indices again and again, the greater one
first. -/
def restless : Engine where
  Single := Unit
  Combined := Unit
  compileSingle _ := .ok ()
  compileCombined _ := .ok ()
  isMatch _ _ := .ok true
  whichMatch _ _ found := (found.insertAll [2, 0, 2, 0], .ok ())
  findFirst _ _ := .ok (some ⟨0, 0⟩)

theorem keepsCapacity_restless : restless.KeepsCapacity := by
  intro patterns singles combined _ h
  exact (Candidates.capacity_insertAll _ _).trans (Candidates.capacity_new _)

def restlessSet : PatternSet restless :=
  (PatternSet.new restless .unanchored).after [.add "a", .add "b", .add "c", .compile]

/-- The indices come out in order, once each, and the result is not the one without a search. -/
theorem restless_result_canonical :
    ∃ m, (restlessSet.matchesOf [0x61]).answer = .ok m ∧ m.toList = [0, 2] ∧
      (∀ i ∈ m.toList, i < restlessSet.size) ∧ (m.matched 1 = true ↔ 1 ∈ m.toList) ∧
      ¬ ∀ i, m.matched i = Matches.empty.matched i := by
  have hok : (restlessSet.matchesOf [0x61]).answer = .ok ⟨[0, 2]⟩ := by cbv
  have reached : restlessSet.Reachable := (PatternSet.Reachable.new _).after _
  obtain ⟨-, hlt, hmatched, heq⟩ := results_canonical (.found reached hok) .default
  refine ⟨⟨[0, 2]⟩, hok, rfl, hlt _ _ _ keepsCapacity_restless reached hok, hmatched 1, ?_⟩
  intro hsame
  exact absurd (heq.2 hsame) (by decide)

end Matches

end Multimatch
