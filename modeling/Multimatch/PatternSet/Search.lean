import Multimatch.PatternSet.Basic
import Multimatch.PatternSet.Matches

/-!
Searches in compiled sets. The combined matcher tells which patterns match somewhere. That settles
an unanchored search; an anchored one asks for the first match of each of these candidates in turn,
in ascending order, and looks at its span.

A search borrows a candidate buffer, empties it before use, and gives it back whether it succeeds or
fails.
-/

namespace Multimatch.PatternSet

variable {E : Engine}

/-- A step of a search: what it found, and what it told the log. -/
structure Finding (α : Type) where
  answer : Except MatchError α
  events : List Event

def verify (s : PatternSet E) (h : Haystack) (single : E.Single) (index : Nat) : Finding Bool :=
  match E.findFirst single h with
  | .error e => ⟨.error e, []⟩
  | .ok first =>
    if first.any (s.anchor.accepts · h.length) then ⟨.ok true, []⟩
    else ⟨.ok false, [.rejected index first]⟩

/-- The candidates that the anchor accepts. The first failure ends the search for them. A candidate
without a verifier, which would be an index out of bounds, is passed over; an aligned set has none
(`reachable_parts_aligned`). -/
def acceptedOf (s : PatternSet E) (h : Haystack) : List Nat → Finding (List Nat)
  | [] => ⟨.ok [], []⟩
  | index :: rest =>
    match s.verifiers[index]? with
    | none => acceptedOf s h rest
    | some single =>
      match s.verify h single index with
      | ⟨.error e, events⟩ => ⟨.error e, events⟩
      | ⟨.ok accepted, events⟩ =>
        let found := acceptedOf s h rest
        ⟨found.answer.map fun is => if accepted then index :: is else is, events ++ found.events⟩

/-- Whether the anchor accepts any candidate. The first that it accepts ends the search. As before,
a candidate without a verifier is passed over. -/
def anyAcceptedOf (s : PatternSet E) (h : Haystack) : List Nat → Finding Bool
  | [] => ⟨.ok false, []⟩
  | index :: rest =>
    match s.verifiers[index]? with
    | none => anyAcceptedOf s h rest
    | some single =>
      match s.verify h single index with
      | ⟨.error e, events⟩ => ⟨.error e, events⟩
      | ⟨.ok true, events⟩ => ⟨.ok true, events⟩
      | ⟨.ok false, events⟩ =>
        let found := anyAcceptedOf s h rest
        ⟨found.answer, events ++ found.events⟩

def early {α : Type} (s : PatternSet E) : Outcome E α := ⟨.error .notCompiled, [.earlySearch], s⟩

def finish {α : Type} (s : PatternSet E) (combined : E.Combined) (scratch : Scratch)
    (found : Finding α) : Outcome E α :=
  ⟨found.answer.mapError .matchEngine, found.events,
    { s with stage := .compiled combined scratch }⟩

/--
Searches with a borrowed buffer: fills it with the candidates, and if that does not fail, goes on
with their indices.
-/
def withCandidates {α : Type} (s : PatternSet E) (combined : E.Combined) (scratch : Scratch)
    (h : Haystack) (go : List Nat → Finding α) : Outcome E α :=
  let (buffer, scratch) := scratch.lend
  let (buffer, done) := E.whichMatch combined h buffer.clear
  let found := match done with
    | .error e => ⟨.error e, []⟩
    | .ok () => go buffer.toList
  s.finish combined (scratch.giveBack buffer) found

/-- Whether any pattern matches the haystack as the anchor asks. -/
def isMatch (s : PatternSet E) (h : Haystack) : Outcome E Bool :=
  match s.stage with
  | .building | .failed => s.early
  | .compiled combined scratch =>
    if s.anchor.needsSpan then s.withCandidates combined scratch h (s.anyAcceptedOf h)
    else s.finish combined scratch ⟨E.isMatch combined h, []⟩

/-- The patterns that match the haystack as the anchor asks. -/
def matchesOf (s : PatternSet E) (h : Haystack) : Outcome E Matches :=
  match s.stage with
  | .building | .failed => s.early
  | .compiled combined scratch =>
    s.withCandidates combined scratch h fun candidates =>
      if s.anchor.needsSpan then
        let found := s.acceptedOf h candidates
        ⟨found.answer.map .mk, found.events⟩
      else ⟨.ok ⟨candidates⟩, []⟩

end Multimatch.PatternSet
