import Multimatch.Proofs.Searching

/-!
# The two searches agree

`isMatch` and `matchesOf` go through the same candidates of an anchored set, and the first of them
stops early. So it answers as the second does, except that it may miss a failure: one that comes
after a candidate that the anchor accepts. Nothing is assumed of the engine beyond `OnlyInserts`,
and nothing is claimed of unanchored sets, where the two ask the combined matcher different
questions.
-/
namespace Multimatch.PatternSet

variable {E : Engine} {s : PatternSet E} {h : Haystack}

/-! ## The loops -/

section Loops

variable {indices kept : List Nat} {e : MatchError}

theorem acceptedOf_of_rejects (hasc : indices.Pairwise (· < ·)) (hh : s.Holds indices)
    (hall : ∀ c ∈ indices, s.Rejects h c) : (s.acceptedOf h indices).answer = .ok [] := by
  cases hanswer : (s.acceptedOf h indices).answer with
  | error e =>
    obtain ⟨c, hc, hfails, _⟩ := (acceptedOf_eq_error_iff hasc hh).1 hanswer
    exact absurd hfails (hall c hc).settles.not_failsWith
  | ok kept =>
    obtain ⟨_, _, hmem⟩ := acceptedOf_eq_ok hh hanswer
    have hnil : kept = [] := by
      rw [List.eq_nil_iff_forall_not_mem]
      intro i hi
      obtain ⟨hc, ha⟩ := (hmem i).1 hi
      exact (hall i hc).not_accepts ha
    rw [hnil]

theorem anyAcceptedOf_of_acceptedOf (hasc : indices.Pairwise (· < ·)) (hh : s.Holds indices)
    (hok : (s.acceptedOf h indices).answer = .ok kept) :
    (s.anyAcceptedOf h indices).answer = .ok (!kept.isEmpty) := by
  obtain ⟨hsettles, _, hmem⟩ := acceptedOf_eq_ok hh hok
  cases hanswer : (s.anyAcceptedOf h indices).answer with
  | error e =>
    obtain ⟨c, hc, hfails, _⟩ := (anyAcceptedOf_eq_error_iff hasc hh).1 hanswer
    exact absurd hfails (hsettles c hc).not_failsWith
  | ok any =>
    cases any with
    | false =>
      have hnil := acceptedOf_of_rejects hasc hh ((anyAcceptedOf_eq_false_iff hh).1 hanswer)
      rw [hok] at hnil
      rw [Except.ok.inj hnil]
      rfl
    | true =>
      obtain ⟨c, hc, ha, _⟩ := (anyAcceptedOf_eq_true_iff hasc hh).1 hanswer
      have hkept : c ∈ kept := (hmem c).2 ⟨hc, ha⟩
      rw [List.isEmpty_eq_false_iff.2 (List.ne_nil_of_mem hkept)]
      rfl

theorem acceptedOf_eq_error_of_anyAcceptedOf (hasc : indices.Pairwise (· < ·))
    (hh : s.Holds indices) (he : (s.anyAcceptedOf h indices).answer = .error e) :
    (s.acceptedOf h indices).answer = .error e := by
  obtain ⟨c, hc, hfails, hbefore⟩ := (anyAcceptedOf_eq_error_iff hasc hh).1 he
  rw [acceptedOf_eq_error_iff hasc hh]
  exact ⟨c, hc, hfails, fun b hb hlt => (hbefore b hb hlt).settles⟩

/-- The early loop misses a failure only behind a candidate that the anchor accepts. -/
theorem anyAcceptedOf_of_acceptedOf_eq_error (hasc : indices.Pairwise (· < ·))
    (hh : s.Holds indices) (he : (s.acceptedOf h indices).answer = .error e) :
    (s.anyAcceptedOf h indices).answer = .error e ∨
      (s.anyAcceptedOf h indices).answer = .ok true ∧
        ∃ c ∈ indices, s.FailsWith h c e ∧ (∀ b ∈ indices, b < c → s.Settles h b) ∧
          ∃ b ∈ indices, b < c ∧ s.Accepts h b := by
  obtain ⟨c, hc, hfails, hbefore⟩ := (acceptedOf_eq_error_iff hasc hh).1 he
  cases hanswer : (s.anyAcceptedOf h indices).answer with
  | error e' =>
    have he' := acceptedOf_eq_error_of_anyAcceptedOf hasc hh hanswer
    rw [he] at he'
    obtain rfl := Except.error.inj he'
    exact .inl rfl
  | ok any =>
    cases any with
    | false =>
      have hall := (anyAcceptedOf_eq_false_iff hh).1 hanswer
      exact absurd hfails (hall c hc).settles.not_failsWith
    | true =>
      -- The failing candidate cannot be the accepted one, nor one of those rejected before it.
      obtain ⟨b, hb, ha, hrejects⟩ := (anyAcceptedOf_eq_true_iff hasc hh).1 hanswer
      refine .inr ⟨rfl, c, hc, hfails, hbefore, b, hb, ?_, ha⟩
      rcases Nat.lt_trichotomy b c with hlt | rfl | hgt
      · exact hlt
      · exact absurd hfails ha.settles.not_failsWith
      · exact absurd hfails (hrejects c hc hgt).settles.not_failsWith

end Loops

/-! ## The searches -/

section Searches

variable {error : Error}

theorem Consistent.isMatch_of_matchesOf (hs : s.Consistent) (inserts : E.OnlyInserts)
    (hspan : s.anchor.needsSpan = true) {m : Matches} (hm : (s.matchesOf h).answer = .ok m) :
    (s.isMatch h).answer = .ok m.matchedAny := by
  rcases hs.anchored_cases hspan h with
    ⟨error, _, hall⟩ | ⟨combined, scratch, scratch', hstage, hany, hall⟩
  · rw [hall] at hm
    cases hm
  · rw [hall] at hm
    have hfull := (goAll_eq_ok_iff hspan _).1 (finish_eq_ok_iff.1 hm)
    rw [hany, finish_eq_ok_iff]
    exact anyAcceptedOf_of_acceptedOf (s.pairwise_candidates combined h)
      (hs.holds_candidates inserts hstage hspan h) hfull

theorem Consistent.matchesOf_of_isMatch_eq_false (hs : s.Consistent) (inserts : E.OnlyInserts)
    (hspan : s.anchor.needsSpan = true) (hf : (s.isMatch h).answer = .ok false) :
    (s.matchesOf h).answer = .ok .empty := by
  rcases hs.anchored_cases hspan h with
    ⟨error, hany, _⟩ | ⟨combined, scratch, scratch', hstage, hany, hall⟩
  · rw [hany] at hf
    cases hf
  · rw [hany, finish_eq_ok_iff] at hf
    have hh := hs.holds_candidates inserts hstage hspan h
    have hrejects := (anyAcceptedOf_eq_false_iff hh).1 hf
    rw [hall, finish_eq_ok_iff, goAll_eq_ok_iff hspan]
    exact acceptedOf_of_rejects (s.pairwise_candidates combined h) hh hrejects

theorem Consistent.matchesOf_of_isMatch_eq_error (hs : s.Consistent) (inserts : E.OnlyInserts)
    (hspan : s.anchor.needsSpan = true) (he : (s.isMatch h).answer = .error error) :
    (s.matchesOf h).answer = .error error := by
  rcases hs.anchored_cases hspan h with
    ⟨error', hany, hall⟩ | ⟨combined, scratch, scratch', hstage, hany, hall⟩
  · rw [hany] at he
    rw [hall, Except.error.inj he]
  · rw [hany] at he
    obtain ⟨e, rfl, hearly⟩ := finish_eq_error_iff.1 he
    rw [hall, finish_eq_error_iff]
    refine ⟨e, rfl, (goAll_eq_error_iff hspan _).2 ?_⟩
    exact acceptedOf_eq_error_of_anyAcceptedOf (s.pairwise_candidates combined h)
      (hs.holds_candidates inserts hstage hspan h) hearly

theorem Consistent.isMatch_of_matchesOf_eq_error (hs : s.Consistent) (inserts : E.OnlyInserts)
    (hspan : s.anchor.needsSpan = true) (he : (s.matchesOf h).answer = .error error) :
    (s.isMatch h).answer = .error error ∨
      (s.isMatch h).answer = .ok true ∧
        ∃ combined scratch e, s.stage = .compiled combined scratch ∧ error = .matchEngine e ∧
          ∃ c ∈ s.candidates combined h, s.FailsWith h c e ∧
            (∀ b ∈ s.candidates combined h, b < c → s.Settles h b) ∧
            ∃ b ∈ s.candidates combined h, b < c ∧ s.Accepts h b := by
  rcases hs.anchored_cases hspan h with
    ⟨error', hany, hall⟩ | ⟨combined, scratch, scratch', hstage, hany, hall⟩
  · rw [hall] at he
    rw [hany, Except.error.inj he]
    exact .inl rfl
  · rw [hall] at he
    obtain ⟨e, rfl, hgo⟩ := finish_eq_error_iff.1 he
    rw [hany, finish_eq_error_iff, finish_eq_ok_iff]
    rcases anyAcceptedOf_of_acceptedOf_eq_error (s.pairwise_candidates combined h)
      (hs.holds_candidates inserts hstage hspan h) ((goAll_eq_error_iff hspan _).1 hgo) with
      hearly | ⟨htrue, hmissed⟩
    · exact .inl ⟨e, rfl, hearly⟩
    · exact .inr ⟨htrue, combined, scratch, e, hstage, rfl, hmissed⟩

end Searches

/-- On anchored sets, `isMatch` answers what `matchesOf` does, except for failures that it misses
behind an accepted candidate; and neither changes what the other answers. -/
theorem isMatch_agrees_matchesOf (reached : s.Reachable) (inserts : E.OnlyInserts)
    (anchored : s.anchor ≠ .unanchored) (h : Haystack) :
    (∀ m, (s.matchesOf h).answer = .ok m → (s.isMatch h).answer = .ok m.matchedAny) ∧
      ((s.isMatch h).answer = .ok false → (s.matchesOf h).answer = .ok .empty) ∧
      (∀ error, (s.isMatch h).answer = .error error → (s.matchesOf h).answer = .error error) ∧
      (∀ error, (s.matchesOf h).answer = .error error →
        (s.isMatch h).answer = .error error ∨
          (s.isMatch h).answer = .ok true ∧
            ∃ combined scratch e, s.stage = .compiled combined scratch ∧ error = .matchEngine e ∧
              ∃ c ∈ s.candidates combined h, s.FailsWith h c e ∧
                (∀ b ∈ s.candidates combined h, b < c → s.Settles h b) ∧
                ∃ b ∈ s.candidates combined h, b < c ∧ s.Accepts h b) ∧
      ((s.matchesOf h).set.isMatch h).answer = (s.isMatch h).answer ∧
      ((s.isMatch h).set.matchesOf h).answer = (s.matchesOf h).answer := by
  have hs := reached.consistent inserts
  have hspan := s.anchor.needsSpan_iff.2 anchored
  have hafter : ((s.matchesOf h).set.isMatch h).answer = (s.isMatch h).answer :=
    ((alike_matchesOf s h).search_eq (hs.matchesOf inserts h) hs h).1.1
  have hafter' : ((s.isMatch h).set.matchesOf h).answer = (s.matchesOf h).answer :=
    ((alike_isMatch s h).search_eq (hs.isMatch inserts h) hs h).2.1
  refine ⟨fun m hm => ?_, fun hf => ?_, fun error he => ?_, fun error he => ?_, hafter, hafter'⟩
  · exact hs.isMatch_of_matchesOf inserts hspan hm
  · exact hs.matchesOf_of_isMatch_eq_false inserts hspan hf
  · exact hs.matchesOf_of_isMatch_eq_error inserts hspan he
  · exact hs.isMatch_of_matchesOf_eq_error inserts hspan he

/-- The answers of an engine that fails when it is asked for the second of two candidates. -/
def secondFails : Tabulated.Answers where
  rules := [⟨"a", none, .ok true, .ok (some ⟨0, 1⟩)⟩, ⟨"b", none, .ok true, .error (.quit 98 1)⟩]

def secondFailsSet : PatternSet (Tabulated.engine secondFails) :=
  (new _ .start).after [.add "a", .add "b", .compile]

theorem isMatch_misses_second_failure :
    secondFailsSet.Reachable ∧ (Tabulated.engine secondFails).OnlyInserts ∧
      secondFailsSet.anchor ≠ .unanchored ∧
      (secondFailsSet.matchesOf [97, 98]).answer = .error (.matchEngine (.quit 98 1)) ∧
      (secondFailsSet.isMatch [97, 98]).answer = .ok true ∧
      ∃ combined, ∃ b ∈ secondFailsSet.candidates combined [97, 98],
        secondFailsSet.Accepts [97, 98] b := by
  have reached : secondFailsSet.Reachable := (Reachable.new .start).after _
  have inserts := Tabulated.onlyInserts secondFails
  have anchored : secondFailsSet.anchor ≠ .unanchored := by decide
  have hfails : (secondFailsSet.matchesOf [97, 98]).answer =
      .error (.matchEngine (.quit 98 1)) := rfl
  obtain ⟨-, -, -, hmissed, -, -⟩ := isMatch_agrees_matchesOf reached inserts anchored [97, 98]
  refine ⟨reached, inserts, anchored, hfails, ?_⟩
  rcases hmissed _ hfails with herror | ⟨htrue, combined, -, -, -, -, -, -, -, -, b, hb, -, ha⟩
  · have hok : (secondFailsSet.isMatch [97, 98]).answer = .ok true := rfl
    rw [hok] at herror
    cases herror
  · exact ⟨htrue, combined, b, hb, ha⟩

end Multimatch.PatternSet
