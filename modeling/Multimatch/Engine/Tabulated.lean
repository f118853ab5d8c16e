import Multimatch.Engine.Basic

/-!
An engine whose answers are all written out: which patterns it refuses, and what it answers for a
pattern on a haystack. Such an engine can answer anything, consistent or not.
-/

namespace Multimatch.Tabulated

/-- What the engine answers for a pattern, on one haystack or on every one. -/
structure Rule where
  pattern : String
  haystack? : Option Haystack
  /-- Whether the pattern is found along with others. -/
  candidate : Except MatchError Bool
  /-- The span that is found for the pattern alone. -/
  first : Except MatchError (Option Span)

structure Answers where
  /-- Patterns that are refused, with the reason. -/
  refused : List (String × String) := []
  /-- Why patterns cannot be compiled together, if they cannot. -/
  refusedTogether? : Option String := none
  /-- Haystacks for which it is written whether any pattern matches. -/
  anyMatch : List (Haystack × Except MatchError Bool) := []
  /-- Rules, of which the first one for a pattern and a haystack counts. -/
  rules : List Rule := []

namespace Answers

def rule? (a : Answers) (pattern : String) (h : Haystack) : Option Rule :=
  a.rules.find? fun r => r.pattern = pattern && r.haystack?.all (· = h)

/-- Whether a rule makes any of the patterns a candidate; a failure before that ends the search. -/
def anyCandidate (a : Answers) (h : Haystack) : List String → Except MatchError Bool
  | [] => .ok false
  | p :: rest =>
    match a.rule? p h with
    | none => anyCandidate a h rest
    | some r =>
      match r.candidate with
      | .error e => .error e
      | .ok true => .ok true
      | .ok false => anyCandidate a h rest

def collect (a : Answers) (h : Haystack) (index : Nat) (found : Candidates) :
    List String → Candidates × Except MatchError Unit
  | [] => (found, .ok ())
  | p :: rest =>
    match a.rule? p h with
    | none => collect a h (index + 1) found rest
    | some r =>
      match r.candidate with
      | .error e => (found, .error e)
      | .ok true => collect a h (index + 1) (found.insert index) rest
      | .ok false => collect a h (index + 1) found rest

end Answers

/-- The engine that gives the answers. A handle is the text of the patterns. -/
def engine (a : Answers) : Engine where
  Single := String
  Combined := List String
  compileSingle p :=
    match a.refused.find? (·.1 = p) with
    | some (_, text) => .error (.other text)
    | none => .ok p
  compileCombined ps :=
    match a.refusedTogether? with
    | some text => .error (.other text)
    | none => .ok ps
  isMatch ps h :=
    match a.anyMatch.find? (·.1 = h) with
    | some (_, answer) => answer
    | none => a.anyCandidate h ps
  whichMatch ps h found := a.collect h 0 found ps
  findFirst p h :=
    match a.rule? p h with
    | some r => r.first
    | none => .ok none

end Multimatch.Tabulated
