import Multimatch.Proofs.Exactness
import Multimatch.Proofs.Moving
import Multimatch.Proofs.Removal

/-!
# What each anchor asks of an engine

An unanchored set never asks an engine for the first match of a pattern, and an anchored set never
asks whether any pattern matches; of the first matches it asks for those of candidates only. So a
set does not show what the engine has to say of the rest: a run over an engine with other answers
there is the same run. `onto` moves a set to such an engine, and every operation goes along.
-/
namespace Multimatch

namespace Engine

variable (E : Engine)

/-- The engine that compiles patterns and tells candidates alike, but has answers of its own to
whether any pattern matches and to where the first match of a pattern is. -/
def answering (any : E.Combined → Haystack → Except MatchError Bool)
    (first : E.Single → Haystack → Except MatchError (Option Span)) : Engine :=
  { E with isMatch := any, findFirst := first }

/-- The combined matcher tells that the pattern at an index is a candidate, and does not fail. -/
def Reports (combined : E.Combined) (h : Haystack) (i : Nat) : Prop :=
  ∃ capacity found, E.whichMatch combined h (.new capacity) = (found, .ok ()) ∧ i ∈ found.toList

/-- The first matches are those that the engine finds, wherever a pattern is a candidate. -/
def AgreesOnReported (first : E.Single → Haystack → Except MatchError (Option Span)) : Prop :=
  ∀ (patterns : List String) (singles : List E.Single) (combined : E.Combined),
    E.Compiles patterns singles combined → ∀ (h : Haystack) (i : Nat) (single : E.Single),
      singles[i]? = some single → E.Reports combined h i → first single h = E.findFirst single h

/-- The answers that sets with the anchor ask for are those of the engine. -/
structure Suffices (anchor : Anchor) (any : E.Combined → Haystack → Except MatchError Bool)
    (first : E.Single → Haystack → Except MatchError (Option Span)) : Prop where
  any_eq : anchor = .unanchored → any = E.isMatch
  first_eq : anchor ≠ .unanchored → E.AgreesOnReported first

end Engine

section Onto

variable {E : Engine} (any : E.Combined → Haystack → Except MatchError Bool)
  (first : E.Single → Haystack → Except MatchError (Option Span))

/-! ## Moving sets to another engine -/

def Stage.onto : Stage E → Stage (E.answering any first)
  | building => .building
  | compiled combined scratch => .compiled combined scratch
  | failed => .failed

/-- The set, with the same handles, over an engine that may answer otherwise. -/
def PatternSet.onto (s : PatternSet E) : PatternSet (E.answering any first) :=
  ⟨s.anchor, s.patterns, s.verifiers, s.stage.onto any first⟩

def Outcome.onto {α : Type} (o : Outcome E α) : Outcome (E.answering any first) α :=
  ⟨o.answer, o.events, o.set.onto any first⟩

namespace PatternSet

variable {any first} {s : PatternSet E} {h : Haystack}

theorem isCompiled_onto (s : PatternSet E) : (s.onto any first).isCompiled = s.isCompiled := by
  obtain ⟨anchor, patterns, verifiers, stage⟩ := s
  cases stage <;> rfl

theorem stage_onto {combined : E.Combined} {scratch : Scratch}
    (hstage : s.stage = .compiled combined scratch) :
    (s.onto any first).stage = .compiled combined scratch :=
  congrArg (Stage.onto any first) hstage

theorem view_onto (s : PatternSet E) : (s.onto any first).view = s.view := by
  obtain ⟨anchor, patterns, verifiers, stage⟩ := s
  cases stage <;> rfl

theorem add_onto (s : PatternSet E) (p : String) :
    (s.onto any first).add p = (s.add p).onto any first := by
  obtain ⟨anchor, patterns, verifiers, stage⟩ := s
  cases stage with
  | compiled combined scratch => rfl
  | failed => rfl
  | building =>
    cases hp : E.compileSingle p with
    | error source =>
      have hp' : (E.answering any first).compileSingle p = .error source := hp
      simp only [add, onto, Stage.onto, hp, hp']
      rfl
    | ok single =>
      have hp' : (E.answering any first).compileSingle p = .ok single := hp
      simp only [add, onto, Stage.onto, hp, hp']
      rfl

theorem compile_onto (s : PatternSet E) :
    (s.onto any first).compile = s.compile.onto any first := by
  obtain ⟨anchor, patterns, verifiers, stage⟩ := s
  cases stage with
  | compiled combined scratch => rfl
  | failed => rfl
  | building =>
    cases hall : E.compileCombined patterns with
    | error source =>
      have hall' : (E.answering any first).compileCombined patterns = .error source := hall
      simp only [compile, onto, Stage.onto, hall, hall']
      rfl
    | ok combined =>
      have hall' : (E.answering any first).compileCombined patterns = .ok combined := hall
      simp only [compile, onto, Stage.onto, hall, hall']
      rfl

/-! ## Searches -/

section Searches

variable {combined : E.Combined} {scratch : Scratch}

/-- A search goes along if its loop does, on the candidates of a pass that does not fail. -/
theorem withCandidates_onto {α : Type} {go go' : List Nat → Finding α}
    (hgo : ∀ found, E.whichMatch combined h scratch.lend.1.clear = (found, .ok ()) →
      go' found.toList = go found.toList) :
    (s.onto any first).withCandidates combined scratch h go' =
      (s.withCandidates combined scratch h go).onto any first := by
  cases hpass : E.whichMatch combined h scratch.lend.1.clear with
  | mk found done =>
    have hpass' : (E.answering any first).whichMatch combined h scratch.lend.1.clear =
        (found, done) := hpass
    rw [withCandidates_of_pass hpass, withCandidates_of_pass hpass']
    cases done with
    | error e => rfl
    | ok _ =>
      dsimp only
      rw [hgo found hpass]
      rfl

/-- Where the other engine agrees on candidates, it says the same of all that an anchored set asks
about. -/
theorem Reachable.firstAt_onto (reached : s.Reachable)
    (hstage : s.stage = .compiled combined scratch) (hspan : s.anchor.needsSpan = true)
    (hagrees : E.AgreesOnReported first) {found : Candidates}
    (hpass : E.whichMatch combined h scratch.lend.1.clear = (found, .ok ())) :
    ∀ i ∈ found.toList, (s.onto any first).firstAt h i = s.firstAt h i := by
  have hs := reached.consistent_unused
  rw [unused_of_compiled hstage] at hs
  obtain ⟨singles, hcompiles, hverifiers⟩ := hs.compiles rfl
  obtain rfl := hverifiers hspan
  intro i hi
  unfold firstAt
  change s.verifiers[i]?.map (first · h) = s.verifiers[i]?.map (E.findFirst · h)
  apply Option.map_congr
  intro single hsingle
  exact hagrees s.patterns s.verifiers combined hcompiles h i single hsingle ⟨_, found, hpass, hi⟩

theorem isMatch_onto (reached : s.Reachable) (hsuffices : E.Suffices s.anchor any first)
    (h : Haystack) : (s.onto any first).isMatch h = (s.isMatch h).onto any first := by
  cases hc : s.isCompiled with
  | false =>
    have hc' : (s.onto any first).isCompiled = false := s.isCompiled_onto.trans hc
    rw [isMatch_early hc, isMatch_early hc']
    rfl
  | true =>
    obtain ⟨combined, scratch, hstage⟩ := isCompiled_iff.1 hc
    have hstage' : (s.onto any first).stage = .compiled combined scratch := stage_onto hstage
    cases hspan : s.anchor.needsSpan with
    | false =>
      obtain rfl := hsuffices.any_eq (s.anchor.needsSpan_eq_false_iff.1 hspan)
      rw [isMatch_unanchored hstage hspan, isMatch_unanchored hstage' hspan]
      rfl
    | true =>
      have hagrees := hsuffices.first_eq (s.anchor.needsSpan_iff.1 hspan)
      rw [isMatch_anchored hstage hspan, isMatch_anchored hstage' hspan]
      apply withCandidates_onto
      intro found hpass
      exact anyAcceptedOf_congr rfl (reached.firstAt_onto hstage hspan hagrees hpass)

theorem matchesOf_onto (reached : s.Reachable) (hsuffices : E.Suffices s.anchor any first)
    (h : Haystack) : (s.onto any first).matchesOf h = (s.matchesOf h).onto any first := by
  cases hc : s.isCompiled with
  | false =>
    have hc' : (s.onto any first).isCompiled = false := s.isCompiled_onto.trans hc
    rw [matchesOf_early hc, matchesOf_early hc']
    rfl
  | true =>
    obtain ⟨combined, scratch, hstage⟩ := isCompiled_iff.1 hc
    rw [matchesOf_compiled hstage, matchesOf_compiled (stage_onto hstage)]
    apply withCandidates_onto
    intro found hpass
    cases hspan : s.anchor.needsSpan with
    | false =>
      have hspan' : (s.onto any first).anchor.needsSpan = false := hspan
      rw [goAll_unanchored hspan, goAll_unanchored hspan']
    | true =>
      have hagrees := hsuffices.first_eq (s.anchor.needsSpan_iff.1 hspan)
      have hloop : (s.onto any first).acceptedOf h found.toList = s.acceptedOf h found.toList :=
        acceptedOf_congr rfl (reached.firstAt_onto hstage hspan hagrees hpass)
      rw [goAll, goAll, hloop]
      rfl

end Searches

/-! ## Runs -/

theorem perform_onto (reached : s.Reachable) (hsuffices : E.Suffices s.anchor any first)
    (op : Operation) : (s.onto any first).perform op = (s.perform op).onto any first := by
  cases op with
  | add p => exact congrArg (Outcome.map Value.index) (add_onto s p)
  | compile => exact congrArg (Outcome.map fun _ => Value.done) (compile_onto s)
  | isMatch h => exact congrArg (Outcome.map Value.any) (isMatch_onto reached hsuffices h)
  | matchesOf h => exact congrArg (Outcome.map Value.all) (matchesOf_onto reached hsuffices h)

/-- A set that is moved to the other engine goes on alike there. -/
theorem record_onto (reached : s.Reachable) (hsuffices : E.Suffices s.anchor any first)
    (ops : List Operation) :
    (s.onto any first).record ops = s.record ops ∧
      (s.onto any first).after ops = (s.after ops).onto any first := by
  induction ops generalizing s with
  | nil => exact ⟨rfl, rfl⟩
  | cons op ops ih =>
    have hsuffices' : E.Suffices (s.perform op).set.anchor any first := by
      rwa [perform_anchor]
    obtain ⟨hrecord, hafter⟩ := ih (reached.perform op) hsuffices'
    rw [record, after, perform_onto reached hsuffices op]
    exact ⟨congrArg _ hrecord, hafter⟩

/-- Over an engine whose answers suffice for its anchor, a set has the same answers and tells the
same, whatever is done, and shows the same after that. -/
theorem runs_alike {anchor : Anchor} (hsuffices : E.Suffices anchor any first)
    (ops : List Operation) :
    (new (E.answering any first) anchor).record ops = (new E anchor).record ops ∧
      ((new (E.answering any first) anchor).after ops).view = ((new E anchor).after ops).view := by
  obtain ⟨hrecord, hafter⟩ := record_onto (.new anchor) hsuffices ops
  refine ⟨hrecord, ?_⟩
  rw [← view_onto ((new E anchor).after ops), ← hafter]
  rfl

/-- No answers show but those that the anchor asks for. Where engines compile patterns and tell
candidates alike, and tell alike whether any pattern matches, runs of unanchored sets are the same
whatever the engines find for a pattern alone. Where they find the same for all candidates, runs of
anchored sets are the same whatever they find for other patterns and answer otherwise. -/
theorem unasked_answers_do_not_show (E : Engine) (ops : List Operation) :
    (∀ first,
      (new (E.answering E.isMatch first) .unanchored).record ops =
          (new E .unanchored).record ops ∧
        ((new (E.answering E.isMatch first) .unanchored).after ops).view =
          ((new E .unanchored).after ops).view) ∧
      ∀ any first, E.AgreesOnReported first → ∀ anchor, anchor ≠ .unanchored →
        (new (E.answering any first) anchor).record ops = (new E anchor).record ops ∧
          ((new (E.answering any first) anchor).after ops).view =
            ((new E anchor).after ops).view := by
  constructor
  · intro first
    apply runs_alike
    exact ⟨fun _ => rfl, fun anchored => absurd rfl anchored⟩
  · intro any first hagrees anchor anchored
    apply runs_alike
    exact ⟨fun hnone => absurd hnone anchored, fun _ => hagrees⟩

end PatternSet

end Onto

/-- Searches of one pattern that find what the engine finds, and fail where it finds nothing. -/
def Engine.orFail (E : Engine) (single : E.Single) (h : Haystack) : Except MatchError (Option Span) :=
  match E.findFirst single h with
  | .ok (some span) => .ok (some span)
  | .ok none | .error _ => .error (.gaveUp 0)

/-- Over coherent answers, something is found for every candidate. -/
theorem Tabulated.Answers.Coherent.agreesOnReported_orFail {a : Tabulated.Answers}
    (coherent : a.Coherent) :
    (Tabulated.engine a).AgreesOnReported (Tabulated.engine a).orFail := by
  intro ps singles combined hc h i single hsingle hreports
  obtain rfl := Tabulated.compileCombined_eq_ok hc.together
  obtain rfl := Tabulated.handles_eq hc.alone
  obtain ⟨capacity, found, hpass, hi⟩ := hreports
  obtain ⟨indices, hcollect, hmem⟩ := coherent.collect_eq (h := h) 0 (.new capacity) singles
  have hinserted : i ∈ indices := by
    obtain rfl : found = (Candidates.new capacity).insertAll indices :=
      congrArg Prod.fst (hpass.symm.trans hcollect)
    rw [Candidates.mem_toList_insertAll, Candidates.toList_new] at hi
    rcases hi with ⟨hi, -⟩ | hi
    · exact hi
    · exact absurd hi List.not_mem_nil
  obtain ⟨j, p, rfl, hp, span, hspan⟩ := (hmem i).1 hinserted
  rw [Nat.zero_add] at hsingle
  obtain rfl : p = single := Option.some.inj (hp.symm.trans hsingle)
  unfold Engine.orFail
  rw [hspan]

/-- The engine with failures only tells candidates, and where they are found. -/
theorem PatternSet.failures_do_not_show :
    (Tabulated.engine oneRefused).AgreesOnReported (Tabulated.engine oneRefused).orFail ∧
      Anchor.start ≠ .unanchored ∧
      (Tabulated.engine oneRefused).orFail "c" [97, 98] = .error (.gaveUp 0) ∧
      (new ((Tabulated.engine oneRefused).answering (fun _ _ => .error (.gaveUp 0))
          (Tabulated.engine oneRefused).orFail) .start).record
          [.add "a", .add "b", .add "c", .compile, .isMatch [97, 98], .matchesOf [97, 98]] =
        [⟨.add "a", .ok (.index 0), []⟩, ⟨.add "b", .ok (.index 1), []⟩,
          ⟨.add "c", .ok (.index 2), []⟩, ⟨.compile, .ok .done, [.compiled 3 .start]⟩,
          ⟨.isMatch [97, 98], .ok (.any true), []⟩,
          ⟨.matchesOf [97, 98], .ok (.all ⟨[0]⟩), [.rejected 1 (some ⟨1, 2⟩)]⟩] ∧
      (new ((Tabulated.engine oneRefused).answering (Tabulated.engine oneRefused).isMatch
          fun _ _ => .error (.gaveUp 0)) .unanchored).record
          [.add "a", .add "c", .compile, .isMatch [97, 98], .matchesOf [97, 98]] =
        [⟨.add "a", .ok (.index 0), []⟩, ⟨.add "c", .ok (.index 1), []⟩,
          ⟨.compile, .ok .done, [.compiled 2 .unanchored]⟩,
          ⟨.isMatch [97, 98], .ok (.any true), []⟩, ⟨.matchesOf [97, 98], .ok (.all ⟨[0]⟩), []⟩] := by
  have hagrees := oneRefused_coherent.agreesOnReported_orFail
  have anchored : Anchor.start ≠ .unanchored := by decide
  obtain ⟨-, hanchored⟩ := unasked_answers_do_not_show (Tabulated.engine oneRefused)
    [.add "a", .add "b", .add "c", .compile, .isMatch [97, 98], .matchesOf [97, 98]]
  obtain ⟨hunanchored, -⟩ := unasked_answers_do_not_show (Tabulated.engine oneRefused)
    [.add "a", .add "c", .compile, .isMatch [97, 98], .matchesOf [97, 98]]
  obtain ⟨hrecord, -⟩ := hanchored (fun _ _ => .error (.gaveUp 0)) _ hagrees .start anchored
  obtain ⟨hrecord', -⟩ := hunanchored fun _ _ => .error (.gaveUp 0)
  exact ⟨hagrees, anchored, rfl, hrecord.trans rfl, hrecord'.trans rfl⟩

end Multimatch
