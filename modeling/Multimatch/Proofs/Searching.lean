import Multimatch.Proofs.Consistency
import Multimatch.Proofs.Verification

/-!
# Searches in compiled sets

What a search finds is settled by the anchor, the patterns and the engine alone: `isMatch_eq` and
`matchesOf_eq` give it without the buffers, for any set whose parts are aligned. It follows that
two such sets with the same anchor and patterns answer alike, whatever was searched in them before.
-/
namespace Multimatch

theorem Anchor.needsSpan_iff (anchor : Anchor) :
    anchor.needsSpan = true ↔ anchor ≠ .unanchored := by
  cases anchor <;> decide

theorem Anchor.needsSpan_eq_false_iff (anchor : Anchor) :
    anchor.needsSpan = false ↔ anchor = .unanchored := by
  cases anchor <;> decide

namespace PatternSet

variable {E : Engine}

/-- What the combined matcher does to an empty buffer as large as the set. -/
def pass (s : PatternSet E) (combined : E.Combined) (h : Haystack) :
    Candidates × Except MatchError Unit :=
  E.whichMatch combined h (.new s.size)

/-- The indices that the combined matcher inserts, in ascending order. -/
def candidates (s : PatternSet E) (combined : E.Combined) (h : Haystack) : List Nat :=
  (s.pass combined h).1.toList

/-- What a loop over the candidates finds, unless the combined matcher fails. -/
def foundBy {α : Type} (s : PatternSet E) (combined : E.Combined) (h : Haystack)
    (go : List Nat → Finding α) : Finding α :=
  match (s.pass combined h).2 with
  | .error e => ⟨.error e, []⟩
  | .ok () => go (s.candidates combined h)

/-- The loop of the search for all matches. -/
def goAll (s : PatternSet E) (h : Haystack) (candidates : List Nat) : Finding Matches :=
  if s.anchor.needsSpan then
    ⟨(s.acceptedOf h candidates).answer.map .mk, (s.acceptedOf h candidates).events⟩
  else ⟨.ok ⟨candidates⟩, []⟩

variable {s : PatternSet E} {combined : E.Combined} {scratch : Scratch} {h : Haystack}

theorem pairwise_candidates (s : PatternSet E) (combined : E.Combined) (h : Haystack) :
    (s.candidates combined h).Pairwise (· < ·) :=
  Candidates.pairwise_toList _

/-- A set that needs spans has a handle for each of its patterns. -/
theorem Consistent.holds_of_lt (hs : s.Consistent) (hstage : s.stage = .compiled combined scratch)
    (hspan : s.anchor.needsSpan = true) {indices : List Nat} (hlt : ∀ c ∈ indices, c < s.size) :
    s.Holds indices := by
  have hfailed : s.isFailed = false := by rw [isFailed, hstage]
  have hlen : s.size = s.verifiers.length := (hs.verifiers_eq hspan hfailed).length_eq
  intro c hc
  rw [← hlen]
  exact hlt c hc

/-- A set that needs spans has a handle for each candidate. -/
theorem Consistent.holds_candidates (hs : s.Consistent) (inserts : E.OnlyInserts)
    (hstage : s.stage = .compiled combined scratch) (hspan : s.anchor.needsSpan = true)
    (h : Haystack) : s.Holds (s.candidates combined h) := by
  apply hs.holds_of_lt hstage hspan
  intro c hc
  have hlt := Candidates.lt_capacity_of_mem hc
  rwa [pass, hs.whichMatch_capacity inserts.keepsCapacity hstage] at hlt

/-- The borrowed buffer does not show in what a search finds. -/
theorem Consistent.withCandidates_eq {α : Type} (hs : s.Consistent)
    (hstage : s.stage = .compiled combined scratch) (go : List Nat → Finding α) :
    s.withCandidates combined scratch h go =
      s.finish combined (returned combined scratch h) (s.foundBy combined h go) := by
  have hclear := (hs.compiled combined scratch hstage).2.clear_lend
  have hreturned : returned combined scratch h =
      scratch.lend.2.giveBack (E.whichMatch combined h (.new s.size)).1 := by
    rw [returned, hclear]
  rw [hreturned]
  unfold withCandidates
  dsimp only
  rw [hclear]
  rfl

/-- A search goes on with what the combined matcher leaves in the buffer it is lent. -/
theorem withCandidates_of_pass {α : Type} {found : Candidates} {done : Except MatchError Unit}
    (hpass : E.whichMatch combined h scratch.lend.1.clear = (found, done))
    (go : List Nat → Finding α) :
    s.withCandidates combined scratch h go =
      s.finish combined (scratch.lend.2.giveBack found)
        (match done with
          | .error e => ⟨.error e, []⟩
          | .ok () => go found.toList) := by
  obtain ⟨rfl, rfl⟩ : found = (E.whichMatch combined h scratch.lend.1.clear).1 ∧
      done = (E.whichMatch combined h scratch.lend.1.clear).2 := by
    rw [hpass]
    exact ⟨rfl, rfl⟩
  rfl

theorem isMatch_unanchored (hstage : s.stage = .compiled combined scratch)
    (hspan : s.anchor.needsSpan = false) :
    s.isMatch h = s.finish combined scratch ⟨E.isMatch combined h, []⟩ := by
  unfold isMatch
  rw [hstage]
  dsimp only
  rw [hspan]
  rfl

theorem isMatch_anchored (hstage : s.stage = .compiled combined scratch)
    (hspan : s.anchor.needsSpan = true) :
    s.isMatch h = s.withCandidates combined scratch h (s.anyAcceptedOf h) := by
  unfold isMatch
  rw [hstage]
  dsimp only
  rw [if_pos hspan]

theorem matchesOf_compiled (hstage : s.stage = .compiled combined scratch) :
    s.matchesOf h = s.withCandidates combined scratch h (s.goAll h) := by
  unfold matchesOf
  rw [hstage]
  rfl

theorem Consistent.isMatch_eq (hs : s.Consistent) (hstage : s.stage = .compiled combined scratch)
    (hspan : s.anchor.needsSpan = true) :
    s.isMatch h = s.finish combined (returned combined scratch h)
      (s.foundBy combined h (s.anyAcceptedOf h)) := by
  rw [← hs.withCandidates_eq hstage, isMatch_anchored hstage hspan]

theorem Consistent.matchesOf_eq (hs : s.Consistent)
    (hstage : s.stage = .compiled combined scratch) :
    s.matchesOf h = s.finish combined (returned combined scratch h)
      (s.foundBy combined h (s.goAll h)) := by
  rw [← hs.withCandidates_eq hstage, matchesOf_compiled hstage]

/-! ## The answers -/

section Answers

variable {α : Type} {found : Finding α} {go : List Nat → Finding α} {a : α} {e : MatchError}

/-- A search in a compiled set fails only with a failure of the engine. -/
theorem finish_eq_error_iff {error : Error} :
    (s.finish combined scratch found).answer = .error error ↔
      ∃ e, error = .matchEngine e ∧ found.answer = .error e := by
  unfold finish
  cases found.answer with
  | error e =>
    constructor
    · intro heq
      exact ⟨e, (Except.error.inj heq).symm, rfl⟩
    · rintro ⟨e', rfl, heq⟩
      rw [Except.error.inj heq]
      rfl
  | ok a => simp [Except.mapError]

theorem finish_eq_ok_iff :
    (s.finish combined scratch found).answer = .ok a ↔ found.answer = .ok a := by
  unfold finish
  cases found.answer <;> simp [Except.mapError]

/-- The combined matcher fails, or it does not and the loop fails. -/
theorem foundBy_eq_error_iff :
    (s.foundBy combined h go).answer = .error e ↔
      (s.pass combined h).2 = .error e ∨
        (s.pass combined h).2 = .ok () ∧ (go (s.candidates combined h)).answer = .error e := by
  unfold foundBy
  cases (s.pass combined h).2 <;> simp

theorem foundBy_eq_ok_iff :
    (s.foundBy combined h go).answer = .ok a ↔
      (s.pass combined h).2 = .ok () ∧ (go (s.candidates combined h)).answer = .ok a := by
  unfold foundBy
  cases (s.pass combined h).2 <;> simp

theorem goAll_unanchored (hspan : s.anchor.needsSpan = false) (indices : List Nat) :
    s.goAll h indices = ⟨.ok ⟨indices⟩, []⟩ := by
  rw [goAll, hspan]
  rfl

theorem goAll_eq_error_iff (hspan : s.anchor.needsSpan = true) (indices : List Nat) :
    (s.goAll h indices).answer = .error e ↔ (s.acceptedOf h indices).answer = .error e := by
  rw [goAll, if_pos hspan]
  cases (s.acceptedOf h indices).answer <;> simp [Except.map]

theorem goAll_eq_ok_iff (hspan : s.anchor.needsSpan = true) (indices : List Nat) {m : Matches} :
    (s.goAll h indices).answer = .ok m ↔ (s.acceptedOf h indices).answer = .ok m.indices := by
  rw [goAll, if_pos hspan]
  cases (s.acceptedOf h indices).answer with
  | error e => simp [Except.map]
  | ok kept =>
    cases m
    simp [Except.map]

end Answers

/-- Both searches of an anchored set fail alike, or both go through the candidates. -/
theorem Consistent.anchored_cases (hs : s.Consistent) (hspan : s.anchor.needsSpan = true)
    (h : Haystack) :
    (∃ error, (s.isMatch h).answer = .error error ∧ (s.matchesOf h).answer = .error error) ∨
      ∃ combined scratch scratch', s.stage = .compiled combined scratch ∧
        s.isMatch h =
          s.finish combined scratch' (s.anyAcceptedOf h (s.candidates combined h)) ∧
        s.matchesOf h = s.finish combined scratch' (s.goAll h (s.candidates combined h)) := by
  cases hc : s.isCompiled with
  | false =>
    rw [isMatch_early hc, matchesOf_early hc]
    exact .inl ⟨.notCompiled, rfl, rfl⟩
  | true =>
    obtain ⟨combined, scratch, hstage⟩ := isCompiled_iff.1 hc
    rw [hs.isMatch_eq hstage hspan, hs.matchesOf_eq hstage]
    cases hpass : (s.pass combined h).2 with
    | error e =>
      refine .inl ⟨.matchEngine e, ?_, ?_⟩
      · exact finish_eq_error_iff.2 ⟨e, rfl, foundBy_eq_error_iff.2 (.inl hpass)⟩
      · exact finish_eq_error_iff.2 ⟨e, rfl, foundBy_eq_error_iff.2 (.inl hpass)⟩
    | ok _ =>
      refine .inr ⟨combined, scratch, returned combined scratch h, hstage, ?_, ?_⟩
      · rw [foundBy, hpass]
      · rw [foundBy, hpass]

/-- The candidates are the indices that the combined matcher inserts, as often as it likes. -/
theorem mem_candidates {inserted : List Nat} {done : Except MatchError Unit}
    (hpass : s.pass combined h = ((Candidates.new s.size).insertAll inserted, done))
    (hfit : ∀ i ∈ inserted, i < s.size) {i : Nat} :
    i ∈ s.candidates combined h ↔ i ∈ inserted := by
  rw [candidates, hpass, Candidates.mem_toList_insertAll, Candidates.toList_new,
    Candidates.capacity_new]
  constructor
  · rintro (⟨hi, _⟩ | hi)
    · exact hi
    · exact absurd hi List.not_mem_nil
  · exact fun hi => .inl ⟨hi, hfit i hi⟩

/-! ## Sets that look alike -/

/-- Two sets have the same anchor and patterns, and both can be searched or neither can. -/
structure Alike (s t : PatternSet E) : Prop where
  anchor_eq : s.anchor = t.anchor
  patterns_eq : s.patterns = t.patterns
  isCompiled_eq : s.isCompiled = t.isCompiled

variable {t : PatternSet E}

section Handles

variable {combined' : E.Combined} {scratch' : Scratch}

/-- Sets of the same patterns have the same combined matcher. -/
theorem Consistent.combined_eq (hs : s.Consistent) (ht : t.Consistent)
    (hpatterns : s.patterns = t.patterns) (hstage : s.stage = .compiled combined scratch)
    (hstage' : t.stage = .compiled combined' scratch') : combined = combined' := by
  have hcombined := (hs.compiled combined scratch hstage).1
  rw [hpatterns, (ht.compiled combined' scratch' hstage').1] at hcombined
  exact (Except.ok.inj hcombined).symm

/-- Sets of the same patterns that need spans have the same handles for them. -/
theorem Consistent.verifiers_eq_of_patterns (hs : s.Consistent) (ht : t.Consistent)
    (hpatterns : s.patterns = t.patterns) (hstage : s.stage = .compiled combined scratch)
    (hstage' : t.stage = .compiled combined' scratch') (hspan : s.anchor.needsSpan = true)
    (hspan' : t.anchor.needsSpan = true) : s.verifiers = t.verifiers := by
  have hv := hs.verifiers_eq hspan (by rw [isFailed, hstage])
  have hv' := ht.verifiers_eq hspan' (by rw [isFailed, hstage'])
  rw [hpatterns] at hv
  exact hv.unique hv'

/-- Sets that look alike hold the same handles once they are compiled. -/
theorem Alike.handles_eq (ha : Alike s t) (hs : s.Consistent) (ht : t.Consistent)
    (hstage : s.stage = .compiled combined scratch)
    (hstage' : t.stage = .compiled combined' scratch') :
    s.verifiers = t.verifiers ∧ combined = combined' := by
  refine ⟨?_, hs.combined_eq ht ha.patterns_eq hstage hstage'⟩
  cases hspan : s.anchor.needsSpan with
  | false => rw [hs.no_verifiers (.inl hspan), ht.no_verifiers (.inl (ha.anchor_eq ▸ hspan))]
  | true =>
    exact hs.verifiers_eq_of_patterns ht ha.patterns_eq hstage hstage' hspan (ha.anchor_eq ▸ hspan)

end Handles

/-- Sets that look alike answer searches alike, and tell the log the same. -/
theorem Alike.search_eq (ha : Alike s t) (hs : s.Consistent) (ht : t.Consistent) (h : Haystack) :
    ((s.isMatch h).answer = (t.isMatch h).answer ∧ (s.isMatch h).events = (t.isMatch h).events) ∧
      (s.matchesOf h).answer = (t.matchesOf h).answer ∧
      (s.matchesOf h).events = (t.matchesOf h).events := by
  cases hc : s.isCompiled with
  | false =>
    have hc' : t.isCompiled = false := ha.isCompiled_eq ▸ hc
    rw [isMatch_early hc, isMatch_early hc', matchesOf_early hc, matchesOf_early hc']
    exact ⟨⟨rfl, rfl⟩, rfl, rfl⟩
  | true =>
    obtain ⟨combined, scratch, hstage⟩ := isCompiled_iff.1 hc
    obtain ⟨combined', scratch', hstage'⟩ := isCompiled_iff.1 (ha.isCompiled_eq ▸ hc)
    obtain ⟨hverifiers, rfl⟩ := ha.handles_eq hs ht hstage hstage'
    have hsize : s.size = t.size := congrArg List.length ha.patterns_eq
    have hpass : s.pass combined h = t.pass combined h := by rw [pass, pass, hsize]
    have hcand : s.candidates combined h = t.candidates combined h := by
      rw [candidates, candidates, hpass]
    have hfirst : ∀ i ∈ t.candidates combined h, s.firstAt h i = t.firstAt h i := by
      intro i _
      rw [firstAt, firstAt, hverifiers]
    have hall : s.foundBy combined h (s.goAll h) = t.foundBy combined h (t.goAll h) := by
      simp only [foundBy, goAll, hpass, hcand, ha.anchor_eq,
        acceptedOf_congr ha.anchor_eq hfirst]
    rw [hs.matchesOf_eq hstage, ht.matchesOf_eq hstage', hall]
    refine ⟨?_, rfl, rfl⟩
    cases hspan : s.anchor.needsSpan with
    | false =>
      rw [isMatch_unanchored hstage hspan, isMatch_unanchored hstage' (ha.anchor_eq ▸ hspan)]
      exact ⟨rfl, rfl⟩
    | true =>
      have hany : s.foundBy combined h (s.anyAcceptedOf h) =
          t.foundBy combined h (t.anyAcceptedOf h) := by
        simp only [foundBy, hpass, hcand, anyAcceptedOf_congr ha.anchor_eq hfirst]
      rw [hs.isMatch_eq hstage hspan, ht.isMatch_eq hstage' (ha.anchor_eq ▸ hspan), hany]
      exact ⟨rfl, rfl⟩

theorem alike_finish {α : Type} (hstage : s.stage = .compiled combined scratch)
    (scratch' : Scratch) (found : Finding α) : Alike (s.finish combined scratch' found).set s :=
  ⟨rfl, rfl, by rw [isCompiled, isCompiled, hstage]; rfl⟩

/-- A search leaves a set that looks alike. -/
theorem alike_isMatch (s : PatternSet E) (h : Haystack) : Alike (s.isMatch h).set s := by
  rcases isMatch_cases s h with
    ⟨_, heq⟩ | ⟨combined, scratch, scratch', found, hstage, _, _, heq⟩
  · rw [heq]
    exact ⟨rfl, rfl, rfl⟩
  · rw [heq]
    exact alike_finish hstage scratch' found

theorem alike_matchesOf (s : PatternSet E) (h : Haystack) : Alike (s.matchesOf h).set s := by
  rcases matchesOf_cases s h with ⟨_, heq⟩ | ⟨combined, scratch, found, hstage, _, heq⟩
  · rw [heq]
    exact ⟨rfl, rfl, rfl⟩
  · rw [heq]
    exact alike_finish hstage _ found

theorem Alike.trans {r : PatternSet E} (ha : Alike s t) (hb : Alike t r) : Alike s r :=
  ⟨ha.anchor_eq.trans hb.anchor_eq, ha.patterns_eq.trans hb.patterns_eq,
    ha.isCompiled_eq.trans hb.isCompiled_eq⟩

theorem Alike.symm (ha : Alike s t) : Alike t s :=
  ⟨ha.anchor_eq.symm, ha.patterns_eq.symm, ha.isCompiled_eq.symm⟩

theorem alike_unused (s : PatternSet E) : Alike s.unused s := by
  cases hstage : s.stage with
  | building | failed =>
    rw [unused, hstage]
    exact ⟨rfl, rfl, rfl⟩
  | compiled combined scratch =>
    rw [unused_of_compiled hstage]
    exact alike_finish hstage (.new s.size) (⟨.ok (), []⟩ : Finding Unit)

/-- A compiled set is left alike by every operation. -/
theorem alike_perform (hc : s.isCompiled = true) (op : Operation) : Alike (s.perform op).set s := by
  have hnot : s.stage ≠ .building := by
    obtain ⟨combined, scratch, hstage⟩ := isCompiled_iff.1 hc
    rw [hstage]
    exact nofun
  have hleft := (alike_unused (s.perform op).set).symm
  rw [unused_perform hnot op] at hleft
  exact hleft.trans (alike_unused s)

theorem alike_after (hc : s.isCompiled = true) (ops : List Operation) : Alike (s.after ops) s := by
  induction ops generalizing s with
  | nil => exact ⟨rfl, rfl, rfl⟩
  | cons op ops ih =>
    have hop := alike_perform hc op
    exact (ih (hop.isCompiled_eq.trans hc)).trans hop

end PatternSet

end Multimatch
