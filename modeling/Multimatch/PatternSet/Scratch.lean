import Multimatch.Engine.Candidates

/-!
Candidate buffers kept for reuse. A search borrows one and gives it back as it left it, so a buffer
that is lent may still hold the indices of an earlier search.
-/

namespace Multimatch

/-- The buffers of a set that no search holds, and the capacity of new ones. -/
structure Scratch where
  capacity : Nat
  idle : List Candidates
  deriving DecidableEq, Repr

namespace Scratch

def new (capacity : Nat) : Scratch := ⟨capacity, []⟩

/-- Lends a buffer, a new one if none is idle. -/
def lend (s : Scratch) : Candidates × Scratch :=
  match s.idle with
  | [] => (.new s.capacity, s)
  | c :: rest => (c, { s with idle := rest })

def giveBack (s : Scratch) (c : Candidates) : Scratch := { s with idle := c :: s.idle }

end Scratch

end Multimatch
