import Multimatch.Proofs.Outcomes

/-!
# Runs of operations

A set is used through a sequence of operations. `perform` puts their answers into one type, so that
a run is a list of operations, and `Reachable` gives the sets that any run leads to, whatever the
answers were, with sets that were moved out or left behind among them.
-/
namespace Multimatch

/-- Something that is asked of a set. -/
inductive Operation
  | add (pattern : String)
  | compile
  | isMatch (h : Haystack)
  | matchesOf (h : Haystack)
  deriving DecidableEq, Repr

/-- What an operation that succeeds is answered with. -/
inductive Value
  | index (i : Nat)
  | done
  | any (matched : Bool)
  | all (found : Matches)
  deriving DecidableEq, Repr

/-- The outcome with another form of its answer. -/
def Outcome.map {E : Engine} {α β : Type} (f : α → β) (o : Outcome E α) : Outcome E β :=
  ⟨o.answer.map f, o.events, o.set⟩

namespace PatternSet

variable {E : Engine}

/-- Performs an operation. -/
def perform (s : PatternSet E) : Operation → Outcome E Value
  | .add pattern => (s.add pattern).map .index
  | .compile => s.compile.map fun _ => .done
  | .isMatch h => (s.isMatch h).map .any
  | .matchesOf h => (s.matchesOf h).map .all

/-- The set after some operations, performed one after another. -/
def after (s : PatternSet E) : List Operation → PatternSet E
  | [] => s
  | op :: ops => (s.perform op).set.after ops

/-- The sets that operations lead to from the sets without a pattern. -/
inductive Reachable : PatternSet E → Prop
  | new (anchor : Anchor) : Reachable (new E anchor)
  | perform {s : PatternSet E} (op : Operation) : Reachable s → Reachable (s.perform op).set
  | taken {s : PatternSet E} : Reachable s → Reachable s.take.1
  | left {s : PatternSet E} : Reachable s → Reachable s.take.2

theorem Reachable.after {s : PatternSet E} (hs : Reachable s) (ops : List Operation) :
    Reachable (s.after ops) := by
  induction ops generalizing s with
  | nil => exact hs
  | cons op ops ih => exact ih (hs.perform op)

end PatternSet

end Multimatch
