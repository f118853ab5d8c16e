import Multimatch.PatternSet.Search

/-!
# What each operation comes to

One lemma for each operation lists all its outcomes: the answer, the log and the set after it. What
is proved of runs is proved from these lists. What a search finds in a compiled set is left open
here; the lists say what it tells the log and what becomes of the buffers.
-/
namespace Multimatch.PatternSet

variable {E : Engine} {s : PatternSet E} {h : Haystack}

theorem isCompiled_iff : s.isCompiled = true ↔
    ∃ combined scratch, s.stage = .compiled combined scratch := by
  unfold isCompiled
  cases s.stage <;> simp

/-! ## Building -/

/-- The set with one more pattern. -/
def extended (s : PatternSet E) (p : String) (single : E.Single) : PatternSet E :=
  { s with
    patterns := s.patterns ++ [p]
    verifiers := if s.anchor.needsSpan then s.verifiers ++ [single] else s.verifiers }

theorem add_cases (s : PatternSet E) (p : String) :
    (s.stage ≠ .building ∧ s.add p = ⟨.error .alreadyFinalized, [.lateAddition p], s⟩) ∨
      (s.stage = .building ∧ ∃ source, E.compileSingle p = .error source ∧
        s.add p = ⟨.error (.patternSyntax p source), [.patternRefused p source], s⟩) ∨
      (s.stage = .building ∧ ∃ single, E.compileSingle p = .ok single ∧
        s.add p = ⟨.ok s.size, [], s.extended p single⟩) := by
  unfold add
  cases hstage : s.stage with
  | compiled combined scratch => exact .inl ⟨nofun, rfl⟩
  | failed => exact .inl ⟨nofun, rfl⟩
  | building =>
    cases hp : E.compileSingle p with
    | error source => exact .inr (.inl ⟨rfl, source, rfl, rfl⟩)
    | ok single => exact .inr (.inr ⟨rfl, single, rfl, by rw [extended, hstage]⟩)

theorem compile_cases (s : PatternSet E) :
    (s.stage ≠ .building ∧ s.compile = ⟨.error .alreadyFinalized, [.repeatedCompile], s⟩) ∨
      (s.stage = .building ∧ ∃ source, E.compileCombined s.patterns = .error source ∧
        s.compile = ⟨.error (.setCompilation source), [.compileFailed source],
          { s with verifiers := [], stage := .failed }⟩) ∨
      (s.stage = .building ∧ ∃ combined, E.compileCombined s.patterns = .ok combined ∧
        s.compile = ⟨.ok (), [.compiled s.size s.anchor],
          { s with stage := .compiled combined (.new s.size) }⟩) := by
  unfold compile
  cases hstage : s.stage with
  | compiled combined scratch => exact .inl ⟨nofun, rfl⟩
  | failed => exact .inl ⟨nofun, rfl⟩
  | building =>
    cases hall : E.compileCombined s.patterns with
    | error source => exact .inr (.inl ⟨rfl, source, rfl, rfl⟩)
    | ok combined => exact .inr (.inr ⟨rfl, combined, rfl, rfl⟩)

/-! ## What searches tell the log -/

def OnlyTraces (events : List Event) : Prop := ∀ event ∈ events, event.level = .trace

theorem onlyTraces_nil : OnlyTraces [] := fun _ he => absurd he List.not_mem_nil

theorem OnlyTraces.append {events events' : List Event} (ht : OnlyTraces events)
    (ht' : OnlyTraces events') : OnlyTraces (events ++ events') := by
  intro event hevent
  rcases List.mem_append.1 hevent with he | he
  · exact ht event he
  · exact ht' event he

theorem onlyTraces_verify (single : E.Single) (i : Nat) :
    OnlyTraces (s.verify h single i).events := by
  unfold verify
  cases E.findFirst single h with
  | error e => exact onlyTraces_nil
  | ok first =>
    dsimp only
    split
    · exact onlyTraces_nil
    · intro event hevent
      rw [List.mem_singleton.1 hevent]
      rfl

theorem onlyTraces_acceptedOf (indices : List Nat) :
    OnlyTraces (s.acceptedOf h indices).events := by
  induction indices with
  | nil => exact onlyTraces_nil
  | cons i rest ih =>
    rw [acceptedOf]
    cases s.verifiers[i]? with
    | none => exact ih
    | some single =>
      have hverify := onlyTraces_verify (s := s) (h := h) single i
      dsimp only
      cases hv : s.verify h single i with
      | mk answer events =>
        rw [hv] at hverify
        cases answer with
        | error e => exact hverify
        | ok accepted => exact hverify.append ih

theorem onlyTraces_anyAcceptedOf (indices : List Nat) :
    OnlyTraces (s.anyAcceptedOf h indices).events := by
  induction indices with
  | nil => exact onlyTraces_nil
  | cons i rest ih =>
    rw [anyAcceptedOf]
    cases s.verifiers[i]? with
    | none => exact ih
    | some single =>
      have hverify := onlyTraces_verify (s := s) (h := h) single i
      dsimp only
      cases hv : s.verify h single i with
      | mk answer events =>
        rw [hv] at hverify
        cases answer with
        | error e => exact hverify
        | ok accepted =>
          cases accepted with
          | true => exact hverify
          | false => exact hverify.append ih

/-! ## Searching -/

/-- A search in a set that is not compiled does no work. -/
theorem isMatch_early (hc : s.isCompiled = false) (h : Haystack) : s.isMatch h = s.early := by
  unfold isCompiled at hc
  unfold isMatch
  cases hstage : s.stage with
  | compiled combined scratch => rw [hstage] at hc; cases hc
  | building => rfl
  | failed => rfl

theorem matchesOf_early (hc : s.isCompiled = false) (h : Haystack) : s.matchesOf h = s.early := by
  unfold isCompiled at hc
  unfold matchesOf
  cases hstage : s.stage with
  | compiled combined scratch => rw [hstage] at hc; cases hc
  | building => rfl
  | failed => rfl

/-- The buffers after a search that borrowed one, filled it and gave it back. -/
def returned (combined : E.Combined) (scratch : Scratch) (h : Haystack) : Scratch :=
  scratch.lend.2.giveBack (E.whichMatch combined h scratch.lend.1.clear).1

theorem withCandidates_finish {α : Type} (combined : E.Combined) (scratch : Scratch)
    {go : List Nat → Finding α} (hgo : ∀ indices, OnlyTraces (go indices).events) :
    ∃ found, OnlyTraces found.events ∧ s.withCandidates combined scratch h go =
      s.finish combined (returned combined scratch h) found := by
  unfold withCandidates returned
  dsimp only
  cases (E.whichMatch combined h scratch.lend.1.clear).2 with
  | error e => exact ⟨_, onlyTraces_nil, rfl⟩
  | ok _ => exact ⟨_, hgo _, rfl⟩

theorem isMatch_cases (s : PatternSet E) (h : Haystack) :
    (s.isCompiled = false ∧ s.isMatch h = s.early) ∨
      ∃ combined scratch scratch' found, s.stage = .compiled combined scratch ∧
        (scratch' = scratch ∨ scratch' = returned combined scratch h) ∧
        OnlyTraces found.events ∧ s.isMatch h = s.finish combined scratch' found := by
  cases hc : s.isCompiled with
  | false => exact .inl ⟨rfl, isMatch_early hc h⟩
  | true =>
    obtain ⟨combined, scratch, hstage⟩ := isCompiled_iff.1 hc
    unfold isMatch
    rw [hstage]
    dsimp only
    cases s.anchor.needsSpan with
    | true =>
      obtain ⟨found, ht, heq⟩ := withCandidates_finish combined scratch
        (onlyTraces_anyAcceptedOf (s := s) (h := h))
      exact .inr ⟨combined, scratch, _, found, rfl, .inr rfl, ht, heq⟩
    | false => exact .inr ⟨combined, scratch, scratch, _, rfl, .inl rfl, onlyTraces_nil, rfl⟩

theorem matchesOf_cases (s : PatternSet E) (h : Haystack) :
    (s.isCompiled = false ∧ s.matchesOf h = s.early) ∨
      ∃ combined scratch found, s.stage = .compiled combined scratch ∧
        OnlyTraces found.events ∧
        s.matchesOf h = s.finish combined (returned combined scratch h) found := by
  cases hc : s.isCompiled with
  | false => exact .inl ⟨rfl, matchesOf_early hc h⟩
  | true =>
    obtain ⟨combined, scratch, hstage⟩ := isCompiled_iff.1 hc
    unfold matchesOf
    rw [hstage]
    dsimp only
    have hgo : ∀ indices, OnlyTraces (if s.anchor.needsSpan then
        ⟨(s.acceptedOf h indices).answer.map Matches.mk, (s.acceptedOf h indices).events⟩
        else (⟨.ok ⟨indices⟩, []⟩ : Finding Matches)).events := by
      intro indices
      split
      · exact onlyTraces_acceptedOf indices
      · exact onlyTraces_nil
    obtain ⟨found, ht, heq⟩ := withCandidates_finish (s := s) (h := h) combined scratch hgo
    exact .inr ⟨combined, scratch, found, rfl, ht, heq⟩

end Multimatch.PatternSet
