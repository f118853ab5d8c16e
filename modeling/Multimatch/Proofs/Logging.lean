import Multimatch.Proofs.Composition

/-!
# What the log tells of candidates

A search tells the log of each candidate that the anchor rejects, and of nothing else. So what a
search for all matches finds and what the log was told of are the candidates, each of them once. A
failure ends the log where it ends the search, and the search that stops at the first match tells
a beginning of what the other one tells.

Nothing is assumed of the engine but that the candidates of the search at hand are indices of
patterns.
-/
namespace Multimatch.PatternSet

variable {E : Engine} {s : PatternSet E} {h : Haystack}

/-! ## Accounts -/

/-- The log is told, in ascending order, of certain candidates that were rejected, of each with what
the engine answered for it, and of nothing else. -/
def Accounts (s : PatternSet E) (h : Haystack) (events : List Event) (told : Nat → Prop) : Prop :=
  ∃ rejected : List (Nat × Option Span),
    events = rejected.map (fun r => .rejected r.1 r.2) ∧
    (rejected.map Prod.fst).Pairwise (· < ·) ∧
    (∀ r ∈ rejected, s.firstAt h r.1 = some (.ok r.2)) ∧
    ∀ i, i ∈ rejected.map Prod.fst ↔ told i

section Accounts

variable {events : List Event} {told told' : Nat → Prop}

theorem accounts_nil (hnone : ∀ i, ¬ told i) : s.Accounts h [] told :=
  ⟨[], rfl, .nil, nofun, fun i => ⟨nofun, fun hi => absurd hi (hnone i)⟩⟩

theorem Accounts.cons {i : Nat} {first : Option Span} (ha : s.Accounts h events told)
    (hfirst : s.firstAt h i = some (.ok first)) (hlt : ∀ j, told j → i < j) :
    s.Accounts h (.rejected i first :: events) fun j => j = i ∨ told j := by
  obtain ⟨rejected, rfl, hasc, hfirsts, hmem⟩ := ha
  refine ⟨(i, first) :: rejected, rfl, ?_, ?_, ?_⟩
  · rw [List.map_cons, List.pairwise_cons]
    exact ⟨fun j hj => hlt j ((hmem j).1 hj), hasc⟩
  · rw [List.forall_mem_cons]
    exact ⟨hfirst, hfirsts⟩
  · intro j
    rw [List.map_cons, List.mem_cons, hmem]

theorem Accounts.congr (ha : s.Accounts h events told) (hiff : ∀ i, told i ↔ told' i) :
    s.Accounts h events told' := by
  obtain ⟨rejected, hevents, hasc, hfirsts, hmem⟩ := ha
  exact ⟨rejected, hevents, hasc, hfirsts, fun i => (hmem i).trans (hiff i)⟩

end Accounts

/-! ## The loops -/

section Loops

variable {indices : List Nat}

theorem Settles.rejects {i : Nat} (hs : s.Settles h i) (hnot : ¬ s.Accepts h i) :
    s.Rejects h i := by
  obtain ⟨first, hfirst⟩ := hs
  refine ⟨first, hfirst, ?_⟩
  rintro span rfl hcovers
  exact hnot ⟨span, hfirst, hcovers⟩

/-- The full loop tells of the candidates that are rejected before any search fails. -/
theorem acceptedOf_accounts (hasc : indices.Pairwise (· < ·)) (hh : s.Holds indices) :
    s.Accounts h (s.acceptedOf h indices).events
      (StopsAt (s.Settles h) (s.Rejects h) indices) := by
  induction indices with
  | nil => exact accounts_nil fun i hi => absurd hi.1 List.not_mem_nil
  | cons i rest ih =>
    have ih := ih hasc.of_cons hh.tail
    rcases acceptedOf_cons (h := h) hh.head rest with
      ⟨ha, heq⟩ | ⟨first, hfirst, hr, heq⟩ | ⟨e, hf, heq⟩
    · have hnot : ¬ s.Rejects h i := fun hr => hr.not_accepts ha
      rw [heq]
      apply ih.congr
      intro j
      simp only [stopsAt_cons hasc, hnot, ha.settles, and_false, false_or, true_and]
    · have hlt : ∀ j, StopsAt (s.Settles h) (s.Rejects h) rest j → i < j :=
        fun j hj => List.rel_of_pairwise_cons hasc hj.1
      rw [heq]
      apply (ih.cons hfirst hlt).congr
      intro j
      simp only [stopsAt_cons hasc, hr, hr.settles, and_true, true_and]
    · have hnot : ¬ s.Rejects h i := fun hr => hr.settles.not_failsWith hf
      have hnot' : ¬ s.Settles h i := fun hs => hs.not_failsWith hf
      rw [heq]
      apply accounts_nil
      intro j
      simp only [stopsAt_cons hasc, hnot, hnot', and_false, false_and, or_self, not_false_eq_true]

theorem anyAcceptedOf_accounts (hasc : indices.Pairwise (· < ·)) (hh : s.Holds indices) :
    s.Accounts h (s.anyAcceptedOf h indices).events
      (StopsAt (s.Rejects h) (s.Rejects h) indices) := by
  induction indices with
  | nil => exact accounts_nil fun i hi => absurd hi.1 List.not_mem_nil
  | cons i rest ih =>
    have ih := ih hasc.of_cons hh.tail
    have hstopped : ∀ answer, ¬ s.Rejects h i →
        s.Accounts h (⟨answer, []⟩ : Finding Bool).events
          (StopsAt (s.Rejects h) (s.Rejects h) (i :: rest)) := by
      intro answer hnot
      apply accounts_nil
      intro j
      simp only [stopsAt_cons hasc, hnot, and_false, false_and, or_self, not_false_eq_true]
    rcases anyAcceptedOf_cons (h := h) hh.head rest with
      ⟨ha, heq⟩ | ⟨first, hfirst, hr, heq⟩ | ⟨e, hf, heq⟩
    · rw [heq]
      exact hstopped _ fun hr => hr.not_accepts ha
    · have hlt : ∀ j, StopsAt (s.Rejects h) (s.Rejects h) rest j → i < j :=
        fun j hj => List.rel_of_pairwise_cons hasc hj.1
      rw [heq]
      apply (ih.cons hfirst hlt).congr
      intro j
      simp only [stopsAt_cons hasc, hr, and_true, true_and]
    · rw [heq]
      exact hstopped _ fun hr => hr.settles.not_failsWith hf

/-- Both loops tell the same, up to where the early one stops with a match. -/
theorem anyAcceptedOf_events (hh : s.Holds indices) :
    (s.anyAcceptedOf h indices).events <+: (s.acceptedOf h indices).events ∧
      ((s.anyAcceptedOf h indices).answer ≠ .ok true →
        (s.anyAcceptedOf h indices).events = (s.acceptedOf h indices).events) := by
  induction indices with
  | nil => exact ⟨List.prefix_rfl, fun _ => rfl⟩
  | cons i rest ih =>
    obtain ⟨hbegins, hsame⟩ := ih hh.tail
    rcases anyAcceptedOf_cons (h := h) hh.head rest with
      ⟨ha, heq⟩ | ⟨first, hfirst, hr, heq⟩ | ⟨e, hf, heq⟩
    · rw [heq]
      refine ⟨?_, fun hnot => absurd rfl hnot⟩
      exact List.nil_prefix
    · rcases acceptedOf_cons (h := h) hh.head rest with
        ⟨ha, -⟩ | ⟨first', hfirst', -, heq'⟩ | ⟨e, hf, -⟩
      · exact absurd ha hr.not_accepts
      · obtain rfl := Except.ok.inj (Option.some.inj (hfirst.symm.trans hfirst'))
        rw [heq, heq']
        exact ⟨List.cons_prefix_cons.2 ⟨rfl, hbegins⟩, fun hnot => congrArg _ (hsame hnot)⟩
      · exact absurd hf hr.settles.not_failsWith
    · rcases acceptedOf_cons (h := h) hh.head rest with
        ⟨ha, -⟩ | ⟨first', -, hr, -⟩ | ⟨e', -, heq'⟩
      · exact absurd hf ha.settles.not_failsWith
      · exact absurd hf hr.settles.not_failsWith
      · rw [heq, heq']
        exact ⟨List.prefix_rfl, fun _ => rfl⟩

/-- What the full loop keeps and what it tells of are all the candidates. -/
theorem accounts_of_acceptedOf_eq_ok (hasc : indices.Pairwise (· < ·)) (hh : s.Holds indices)
    {kept : List Nat} (hok : (s.acceptedOf h indices).answer = .ok kept) :
    kept ⊆ indices ∧ s.Accounts h (s.acceptedOf h indices).events
      fun i => i ∈ indices ∧ i ∉ kept := by
  obtain ⟨hsettles, hsub, hmem⟩ := acceptedOf_eq_ok hh hok
  refine ⟨hsub.subset, (acceptedOf_accounts hasc hh).congr fun i => ⟨?_, ?_⟩⟩
  · rintro ⟨hi, hr, -⟩
    exact ⟨hi, fun hkept => hr.not_accepts ((hmem i).1 hkept).2⟩
  · rintro ⟨hi, hnot⟩
    have hr : s.Rejects h i := (hsettles i hi).rejects fun ha => hnot ((hmem i).2 ⟨hi, ha⟩)
    exact ⟨hi, hr, fun b hb _ => hsettles b hb⟩

/-- Where the full loop fails, it has told of the candidates rejected before that. -/
theorem accounts_of_acceptedOf_eq_error (hasc : indices.Pairwise (· < ·)) (hh : s.Holds indices)
    {e : MatchError} (he : (s.acceptedOf h indices).answer = .error e) :
    ∃ c, StopsAt (s.Settles h) (s.FailsWith h · e) indices c ∧
      s.Accounts h (s.acceptedOf h indices).events
        fun i => i ∈ indices ∧ i < c ∧ s.Rejects h i := by
  obtain ⟨c, hc, hfails, hbefore⟩ := (acceptedOf_eq_error_iff hasc hh).1 he
  refine ⟨c, ⟨hc, hfails, hbefore⟩, (acceptedOf_accounts hasc hh).congr fun i => ⟨?_, ?_⟩⟩
  · rintro ⟨hi, hr, hbefore'⟩
    refine ⟨hi, ?_, hr⟩
    rcases Nat.lt_trichotomy i c with hlt | rfl | hgt
    · exact hlt
    · exact absurd hfails hr.settles.not_failsWith
    · exact absurd hfails (hbefore' c hc hgt).not_failsWith
  · rintro ⟨hi, hlt, hr⟩
    exact ⟨hi, hr, fun b hb hlt' => hbefore b hb (Nat.lt_trans hlt' hlt)⟩

/-- Where the early loop succeeds, it has told of all candidates before the one it found. -/
theorem accounts_of_anyAcceptedOf_eq_true (hasc : indices.Pairwise (· < ·)) (hh : s.Holds indices)
    (htrue : (s.anyAcceptedOf h indices).answer = .ok true) :
    ∃ c, StopsAt (s.Rejects h) (s.Accepts h) indices c ∧
      s.Accounts h (s.anyAcceptedOf h indices).events fun i => i ∈ indices ∧ i < c := by
  obtain ⟨c, hc, ha, hbefore⟩ := (anyAcceptedOf_eq_true_iff hasc hh).1 htrue
  refine ⟨c, ⟨hc, ha, hbefore⟩, (anyAcceptedOf_accounts hasc hh).congr fun i => ⟨?_, ?_⟩⟩
  · rintro ⟨hi, hr, hbefore'⟩
    refine ⟨hi, ?_⟩
    rcases Nat.lt_trichotomy i c with hlt | rfl | hgt
    · exact hlt
    · exact absurd ha hr.not_accepts
    · exact absurd ha (hbefore' c hc hgt).not_accepts
  · rintro ⟨hi, hlt⟩
    exact ⟨hi, hbefore i hi hlt, fun b hb hlt' => hbefore b hb (Nat.lt_trans hlt' hlt)⟩

end Loops

/-! ## The searches -/

section Searches

variable {combined : E.Combined} {scratch : Scratch} {found : Candidates}
  {done : Except MatchError Unit}

theorem loops_of_pass (hstage : s.stage = .compiled combined scratch)
    (hspan : s.anchor.needsSpan = true)
    (hpass : E.whichMatch combined h scratch.lend.1.clear = (found, .ok ())) :
    s.isMatch h = s.finish combined (scratch.lend.2.giveBack found)
        (s.anyAcceptedOf h found.toList) ∧
      s.matchesOf h = s.finish combined (scratch.lend.2.giveBack found)
        (s.goAll h found.toList) := by
  rw [isMatch_anchored hstage hspan, matchesOf_compiled hstage, withCandidates_of_pass hpass,
    withCandidates_of_pass hpass]
  exact ⟨rfl, rfl⟩

theorem Reachable.holds_of_lt (reached : s.Reachable)
    (hstage : s.stage = .compiled combined scratch) (hspan : s.anchor.needsSpan = true)
    {indices : List Nat} (hlt : ∀ i ∈ indices, i < s.size) : s.Holds indices := by
  have hs := reached.consistent_unused
  rw [unused_of_compiled hstage] at hs
  exact hs.holds_of_lt rfl hspan hlt

/-- Where no spans are needed, and where the combined matcher fails, nothing is told. -/
theorem events_eq_nil (hstage : s.stage = .compiled combined scratch)
    (hpass : E.whichMatch combined h scratch.lend.1.clear = (found, done))
    (hnone : s.anchor = .unanchored ∨ done ≠ .ok ()) :
    (s.isMatch h).events = [] ∧ (s.matchesOf h).events = [] := by
  rw [matchesOf_compiled hstage, withCandidates_of_pass hpass]
  cases hspan : s.anchor.needsSpan with
  | false =>
    rw [isMatch_unanchored hstage hspan]
    cases done with
    | error e => exact ⟨rfl, rfl⟩
    | ok _ => exact ⟨rfl, congrArg Finding.events (goAll_unanchored hspan _)⟩
  | true =>
    rw [isMatch_anchored hstage hspan, withCandidates_of_pass hpass]
    cases done with
    | error e => exact ⟨rfl, rfl⟩
    | ok _ =>
      rcases hnone with hanchor | hnot
      · exact absurd hanchor (s.anchor.needsSpan_iff.1 hspan)
      · exact absurd rfl hnot

/-- In a set that can be searched, the log accounts for every candidate. What an anchored search for
all matches finds and what it tells of are the candidates; where it fails at a candidate, it has
told of those rejected before. An anchored search for any match tells of the candidates before the
first that is accepted. It tells a beginning of what the other search tells, and all of it unless it
finds a match. Nothing is told where no spans are needed or the combined matcher fails. -/
theorem log_accounts_for_candidates (reached : s.Reachable)
    (hstage : s.stage = .compiled combined scratch)
    (hpass : E.whichMatch combined h scratch.lend.1.clear = (found, done))
    (hfit : ∀ i ∈ found.toList, i < s.size) :
    (s.anchor ≠ .unanchored → done = .ok () →
      (∀ m, (s.matchesOf h).answer = .ok m → m.indices ⊆ found.toList ∧
        s.Accounts h (s.matchesOf h).events fun i => i ∈ found.toList ∧ i ∉ m.indices) ∧
      (∀ error, (s.matchesOf h).answer = .error error → ∃ e c, error = .matchEngine e ∧
        c ∈ found.toList ∧ s.FailsWith h c e ∧ (∀ b ∈ found.toList, b < c → s.Settles h b) ∧
        s.Accounts h (s.matchesOf h).events
          fun i => i ∈ found.toList ∧ i < c ∧ s.Rejects h i) ∧
      ((s.isMatch h).answer = .ok true → ∃ c ∈ found.toList,
        s.Accepts h c ∧ (∀ b ∈ found.toList, b < c → s.Rejects h b) ∧
        s.Accounts h (s.isMatch h).events fun i => i ∈ found.toList ∧ i < c)) ∧
      (s.isMatch h).events <+: (s.matchesOf h).events ∧
      ((s.isMatch h).answer ≠ .ok true → (s.isMatch h).events = (s.matchesOf h).events) ∧
      (s.anchor = .unanchored ∨ done ≠ .ok () →
        (s.isMatch h).events = [] ∧ (s.matchesOf h).events = []) := by
  by_cases hnone : s.anchor = .unanchored ∨ done ≠ .ok ()
  · obtain ⟨hany, hall⟩ := events_eq_nil hstage hpass hnone
    rw [hany, hall]
    refine ⟨?_, List.prefix_rfl, fun _ => rfl, fun _ => ⟨rfl, rfl⟩⟩
    intro anchored hdone
    rcases hnone with hanchor | hnot
    · exact absurd hanchor anchored
    · exact absurd hdone hnot
  · obtain ⟨anchored, rfl⟩ : s.anchor ≠ .unanchored ∧ done = .ok () := by
      simpa only [not_or, ne_eq, not_not] using hnone
    have hspan := s.anchor.needsSpan_iff.2 anchored
    have hasc := found.pairwise_toList
    have hh := reached.holds_of_lt hstage hspan hfit
    have hevents : (s.goAll h found.toList).events = (s.acceptedOf h found.toList).events := by
      rw [goAll, if_pos hspan]
    obtain ⟨hbegins, hsame⟩ := anyAcceptedOf_events (h := h) hh
    rw [← hevents] at hbegins hsame
    obtain ⟨hany, hall⟩ := loops_of_pass hstage hspan hpass
    rw [hall, hany]
    refine ⟨fun _ _ => ⟨?_, ?_, ?_⟩, hbegins, ?_, fun hnot => absurd hnot hnone⟩
    · intro m hm
      rw [finish_eq_ok_iff, goAll_eq_ok_iff hspan] at hm
      obtain ⟨hsub, haccounts⟩ := accounts_of_acceptedOf_eq_ok hasc hh hm
      rw [← hevents] at haccounts
      exact ⟨hsub, haccounts⟩
    · intro error herror
      obtain ⟨e, rfl, he⟩ := finish_eq_error_iff.1 herror
      rw [goAll_eq_error_iff hspan] at he
      obtain ⟨c, ⟨hc, hfails, hbefore⟩, haccounts⟩ := accounts_of_acceptedOf_eq_error hasc hh he
      rw [← hevents] at haccounts
      exact ⟨e, c, rfl, hc, hfails, hbefore, haccounts⟩
    · intro htrue
      rw [finish_eq_ok_iff] at htrue
      obtain ⟨c, ⟨hc, ha, hbefore⟩, haccounts⟩ := accounts_of_anyAcceptedOf_eq_true hasc hh htrue
      exact ⟨c, hc, ha, hbefore, haccounts⟩
    · intro hnot
      exact hsame fun htrue => hnot (finish_eq_ok_iff.2 htrue)

end Searches

/-- The answers of an engine for candidates of every kind, one of which makes searches fail, and for
a pattern that is no candidate. -/
def everyKind : Tabulated.Answers where
  rules := [⟨"a", none, .ok true, .ok (some ⟨1, 2⟩)⟩, ⟨"b", none, .ok true, .ok none⟩,
    ⟨"c", none, .ok false, .ok (some ⟨1, 1⟩)⟩, ⟨"d", none, .ok true, .ok (some ⟨0, 1⟩)⟩,
    ⟨"e", none, .ok true, .ok (some ⟨1, 1⟩)⟩, ⟨"f", none, .ok true, .error (.quit 98 1)⟩,
    ⟨"g", none, .ok true, .ok (some ⟨2, 2⟩)⟩]

def everyKindSet : PatternSet (Tabulated.engine everyKind) :=
  built _ .start ["a", "b", "c", "d", "e", "f", "g"]

/-- The full search fails at the sixth pattern and has told of three others by then; the early one
stops with a match at the fourth. -/
theorem log_ends_at_failure :
    everyKindSet.Reachable ∧
      everyKindSet.stage = .compiled ["a", "b", "c", "d", "e", "f", "g"] (.new 7) ∧
      (Tabulated.engine everyKind).whichMatch ["a", "b", "c", "d", "e", "f", "g"] [97, 98]
        (Scratch.new 7).lend.1.clear = (⟨[true, true, false, true, true, true, true]⟩, .ok ()) ∧
      (∀ i ∈ (⟨[true, true, false, true, true, true, true]⟩ : Candidates).toList,
        i < everyKindSet.size) ∧
      everyKindSet.anchor ≠ .unanchored ∧
      (everyKindSet.matchesOf [97, 98]).answer = .error (.matchEngine (.quit 98 1)) ∧
      (∃ c, everyKindSet.FailsWith [97, 98] c (.quit 98 1) ∧
        everyKindSet.Accounts [97, 98]
          [.rejected 0 (some ⟨1, 2⟩), .rejected 1 none, .rejected 4 (some ⟨1, 1⟩)]
          fun i => i ∈ [0, 1, 3, 4, 5, 6] ∧ i < c ∧ everyKindSet.Rejects [97, 98] i) ∧
      (everyKindSet.isMatch [97, 98]).answer = .ok true ∧
      ∃ c, everyKindSet.Accepts [97, 98] c ∧ everyKindSet.Accounts [97, 98]
        [.rejected 0 (some ⟨1, 2⟩), .rejected 1 none] fun i => i ∈ [0, 1, 3, 4, 5, 6] ∧ i < c := by
  have reached : everyKindSet.Reachable := reachable_built _ _ _
  have hstage : everyKindSet.stage =
      .compiled ["a", "b", "c", "d", "e", "f", "g"] (.new 7) := rfl
  have hpass : (Tabulated.engine everyKind).whichMatch ["a", "b", "c", "d", "e", "f", "g"] [97, 98]
      (Scratch.new 7).lend.1.clear = (⟨[true, true, false, true, true, true, true]⟩, .ok ()) := rfl
  have hfit : ∀ i ∈ (⟨[true, true, false, true, true, true, true]⟩ : Candidates).toList,
      i < everyKindSet.size := by decide
  have anchored : everyKindSet.anchor ≠ .unanchored := by decide
  have hfails : (everyKindSet.matchesOf [97, 98]).answer =
      .error (.matchEngine (.quit 98 1)) := rfl
  have htrue : (everyKindSet.isMatch [97, 98]).answer = .ok true := rfl
  obtain ⟨hlog, -⟩ := log_accounts_for_candidates reached hstage hpass hfit
  obtain ⟨-, hfailed, hfound⟩ := hlog anchored rfl
  obtain ⟨e, c, herror, -, hc, -, haccounts⟩ := hfailed _ hfails
  obtain ⟨d, -, hd, -, haccounts'⟩ := hfound htrue
  obtain rfl := Error.matchEngine.inj herror
  exact ⟨reached, hstage, hpass, hfit, anchored, hfails, ⟨c, hc, haccounts⟩, htrue, d, hd,
    haccounts'⟩

end Multimatch.PatternSet
