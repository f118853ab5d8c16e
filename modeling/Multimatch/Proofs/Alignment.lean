import Multimatch.Proofs.Searching

/-!
# No search reaches outside its set

A search relies on its set: the buffer that it hands to the combined matcher is to be empty and as
large as the set, and there is to be a handle for each candidate whose span it asks for. Here a
search also comes in a form that checks this before every such call and gives up where it fails.
On every set that operations lead to, moved out or left behind ones included, no check fails, so
the searches without checks rely on nothing that is not so.
-/
namespace Multimatch.PatternSet

variable {E : Engine} {s : PatternSet E} {h : Haystack}

/-! ## Searches that check -/

/-- What a search could rely on in vain. -/
inductive Misuse
  /-- A buffer for the combined matcher still holds indices. -/
  | dirtyBuffer
  /-- A buffer for the combined matcher does not have the capacity of the set. -/
  | wrongCapacity (capacity : Nat)
  /-- A candidate has no handle. -/
  | noHandle (index : Nat)
  deriving DecidableEq, Repr

/-- Hands a buffer to the combined matcher, if it is empty and as large as the set. -/
def passChecked (s : PatternSet E) (combined : E.Combined) (h : Haystack) (buffer : Candidates) :
    Except Misuse (Candidates × Except MatchError Unit) :=
  if buffer.toList ≠ [] then .error .dirtyBuffer
  else if buffer.capacity ≠ s.size then .error (.wrongCapacity buffer.capacity)
  else .ok (E.whichMatch combined h buffer)

/-- The loop for all candidates that the anchor accepts, as long as they have handles. -/
def acceptedChecked (s : PatternSet E) (h : Haystack) :
    List Nat → Except Misuse (Finding (List Nat))
  | [] => .ok ⟨.ok [], []⟩
  | index :: rest =>
    match s.verifiers[index]? with
    | none => .error (.noHandle index)
    | some single =>
      match s.verify h single index with
      | ⟨.error e, events⟩ => .ok ⟨.error e, events⟩
      | ⟨.ok accepted, events⟩ =>
        (acceptedChecked s h rest).map fun found =>
          ⟨found.answer.map fun is => if accepted then index :: is else is, events ++ found.events⟩

/-- The loop that stops at the first candidate that the anchor accepts, as long as candidates have
handles. -/
def anyAcceptedChecked (s : PatternSet E) (h : Haystack) : List Nat → Except Misuse (Finding Bool)
  | [] => .ok ⟨.ok false, []⟩
  | index :: rest =>
    match s.verifiers[index]? with
    | none => .error (.noHandle index)
    | some single =>
      match s.verify h single index with
      | ⟨.error e, events⟩ => .ok ⟨.error e, events⟩
      | ⟨.ok true, events⟩ => .ok ⟨.ok true, events⟩
      | ⟨.ok false, events⟩ =>
        (anyAcceptedChecked s h rest).map fun found => ⟨found.answer, events ++ found.events⟩

/-- Searches with a borrowed buffer and checks. -/
def withCandidatesChecked {α : Type} (s : PatternSet E) (combined : E.Combined) (scratch : Scratch)
    (h : Haystack) (go : List Nat → Except Misuse (Finding α)) :
    Except Misuse (Outcome E α) := do
  let (buffer, scratch) := scratch.lend
  let (buffer, done) ← s.passChecked combined h buffer.clear
  let found ← match done with
    | .error e => .ok ⟨.error e, []⟩
    | .ok () => go buffer.toList
  .ok (s.finish combined (scratch.giveBack buffer) found)

def isMatchChecked (s : PatternSet E) (h : Haystack) : Except Misuse (Outcome E Bool) :=
  match s.stage with
  | .building | .failed => .ok s.early
  | .compiled combined scratch =>
    if s.anchor.needsSpan then
      s.withCandidatesChecked combined scratch h (s.anyAcceptedChecked h)
    else .ok (s.finish combined scratch ⟨E.isMatch combined h, []⟩)

def matchesOfChecked (s : PatternSet E) (h : Haystack) : Except Misuse (Outcome E Matches) :=
  match s.stage with
  | .building | .failed => .ok s.early
  | .compiled combined scratch =>
    s.withCandidatesChecked combined scratch h fun candidates =>
      if s.anchor.needsSpan then
        (s.acceptedChecked h candidates).map fun found =>
          ⟨found.answer.map .mk, found.events⟩
      else .ok ⟨.ok ⟨candidates⟩, []⟩

/-! ## No check fails -/

theorem passChecked_new (s : PatternSet E) (combined : E.Combined) (h : Haystack) :
    s.passChecked combined h (.new s.size) = .ok (s.pass combined h) := by
  simp [passChecked, pass]

theorem acceptedChecked_eq {indices : List Nat} (hh : s.Holds indices) :
    s.acceptedChecked h indices = .ok (s.acceptedOf h indices) := by
  induction indices with
  | nil => rfl
  | cons i rest ih =>
    obtain ⟨single, hsingle⟩ : ∃ single, s.verifiers[i]? = some single :=
      ⟨_, List.getElem?_eq_getElem hh.head⟩
    simp only [acceptedChecked, acceptedOf, hsingle, ih hh.tail]
    cases hv : s.verify h single i with
    | mk answer events => cases answer <;> rfl

theorem anyAcceptedChecked_eq {indices : List Nat} (hh : s.Holds indices) :
    s.anyAcceptedChecked h indices = .ok (s.anyAcceptedOf h indices) := by
  induction indices with
  | nil => rfl
  | cons i rest ih =>
    obtain ⟨single, hsingle⟩ : ∃ single, s.verifiers[i]? = some single :=
      ⟨_, List.getElem?_eq_getElem hh.head⟩
    simp only [anyAcceptedChecked, anyAcceptedOf, hsingle, ih hh.tail]
    cases hv : s.verify h single i with
    | mk answer events =>
      cases answer with
      | error e => rfl
      | ok accepted => cases accepted <;> rfl

section Compiled

variable {combined : E.Combined} {scratch : Scratch}

/-- With an aligned set, checking changes nothing if the loop over the candidates needs no check. -/
theorem Consistent.withCandidatesChecked_eq {α : Type} (hs : s.Consistent)
    (hstage : s.stage = .compiled combined scratch)
    {go : List Nat → Finding α} {goChecked : List Nat → Except Misuse (Finding α)}
    (hgo : goChecked (s.candidates combined h) = .ok (go (s.candidates combined h))) :
    s.withCandidatesChecked combined scratch h goChecked =
      .ok (s.withCandidates combined scratch h go) := by
  have hclear := (hs.compiled combined scratch hstage).2.clear_lend
  rw [hs.withCandidates_eq hstage, returned, hclear]
  unfold withCandidatesChecked
  simp only [hclear, passChecked_new, bind, Except.bind]
  rw [candidates] at hgo
  unfold foundBy
  cases hpass : s.pass combined h with
  | mk buffer done =>
    rw [pass] at hpass
    cases done with
    | error e => simp only [hpass]
    | ok _ =>
      rw [pass, hpass] at hgo
      simp only [hpass, candidates, pass, hgo]

theorem Consistent.isMatchChecked_eq (hs : s.Consistent) (inserts : E.OnlyInserts)
    (h : Haystack) : s.isMatchChecked h = .ok (s.isMatch h) := by
  unfold isMatchChecked PatternSet.isMatch
  cases hstage : s.stage with
  | building => rfl
  | failed => rfl
  | compiled combined scratch =>
    dsimp only
    cases hspan : s.anchor.needsSpan with
    | false => rfl
    | true =>
      have hh := hs.holds_candidates inserts hstage hspan h
      exact hs.withCandidatesChecked_eq hstage (anyAcceptedChecked_eq hh)

theorem Consistent.matchesOfChecked_eq (hs : s.Consistent) (inserts : E.OnlyInserts)
    (h : Haystack) : s.matchesOfChecked h = .ok (s.matchesOf h) := by
  unfold matchesOfChecked PatternSet.matchesOf
  cases hstage : s.stage with
  | building => rfl
  | failed => rfl
  | compiled combined scratch =>
    dsimp only
    refine hs.withCandidatesChecked_eq hstage ?_
    cases hspan : s.anchor.needsSpan with
    | false => rfl
    | true =>
      have hh := hs.holds_candidates inserts hstage hspan h
      simp only [if_true, acceptedChecked_eq hh]
      rfl

end Compiled

/-- The parts of every reachable set belong together, and no search in it makes a call that they do
not allow: a check before each such call never fails and changes nothing. -/
theorem reachable_parts_aligned (reached : s.Reachable) (inserts : E.OnlyInserts) :
    (s.isFailed = false → s.anchor ≠ .unanchored →
      s.verifiers.length = s.patterns.length ∧ ∀ (i : Nat) (p : String), s.patterns[i]? = some p →
        ∃ single, s.verifiers[i]? = some single ∧ E.compileSingle p = .ok single) ∧
      (s.anchor = .unanchored ∨ s.isFailed = true → s.verifiers = []) ∧
      (∀ combined scratch, s.stage = .compiled combined scratch →
        E.compileCombined s.patterns = .ok combined ∧ scratch.capacity = s.size ∧
          ∀ buffer ∈ scratch.idle, buffer.capacity = s.size) ∧
      ∀ h, s.isMatchChecked h = .ok (s.isMatch h) ∧
        s.matchesOfChecked h = .ok (s.matchesOf h) := by
  have hs := reached.consistent inserts
  refine ⟨fun hfailed anchored => ?_, fun hnone => ?_, fun combined scratch hstage => ?_,
    fun h => ⟨hs.isMatchChecked_eq inserts h, hs.matchesOfChecked_eq inserts h⟩⟩
  · have handles := hs.verifiers_eq (s.anchor.needsSpan_iff.2 anchored) hfailed
    refine ⟨handles.length_eq.symm, fun i p hp => ?_⟩
    obtain ⟨single, hsingle⟩ : ∃ single, E.compileSingle p = .ok single :=
      hs.accepted p (List.mem_of_getElem? hp)
    exact ⟨single, handles.getElem?_eq_some_iff.2 ⟨p, hp, hsingle⟩, hsingle⟩
  · exact hs.no_verifiers (hnone.imp_left s.anchor.needsSpan_eq_false_iff.2)
  · obtain ⟨htogether, hfits⟩ := hs.compiled combined scratch hstage
    exact ⟨htogether, hfits.capacity_eq, hfits.idle_capacity⟩

/-- The answers of an engine that refuses one pattern, and fails in a search for another. -/
def refusingFailing : Tabulated.Answers where
  refused := [("(", "unclosed group")]
  rules := [⟨"a", none, .ok true, .ok (some ⟨0, 1⟩)⟩, ⟨"b", none, .ok true, .error (.gaveUp 1)⟩]

/-- A set that was moved out after a refused addition and a failed search. -/
def movedSet : PatternSet (Tabulated.engine refusingFailing) :=
  ((new _ .start).after [.add "a", .add "(", .add "b", .compile, .matchesOf [97]]).take.1

theorem moved_parts_aligned :
    movedSet.Reachable ∧ (Tabulated.engine refusingFailing).OnlyInserts ∧
      movedSet.isFailed = false ∧ movedSet.anchor ≠ .unanchored ∧ movedSet.verifiers.length = 2 ∧
      movedSet.isMatchChecked [97] = .ok (movedSet.isMatch [97]) := by
  have reached : movedSet.Reachable := ((Reachable.new .start).after _).taken
  have inserts := Tabulated.onlyInserts refusingFailing
  have hfailed : movedSet.isFailed = false := rfl
  have anchored : movedSet.anchor ≠ .unanchored := by decide
  obtain ⟨hverifiers, -, -, hchecked⟩ := reachable_parts_aligned reached inserts
  have hpatterns : movedSet.patterns.length = 2 := rfl
  exact ⟨reached, inserts, hfailed, anchored,
    (hverifiers hfailed anchored).1.trans hpatterns, (hchecked [97]).1⟩

/-- A set whose handles were lost does fail a check. -/
example : (isMatchChecked ⟨.both, ["a"], [], .compiled ["a"] (.new 1)⟩ [97] :
    Except Misuse (Outcome (Tabulated.engine refusingFailing) Bool)) = .error (.noHandle 0) := rfl

end Multimatch.PatternSet
