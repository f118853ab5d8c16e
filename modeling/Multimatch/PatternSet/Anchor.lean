import Multimatch.Haystack.Span

/-!
Which part of a haystack a pattern has to cover.
-/

namespace Multimatch

/-- Which part of a haystack the first match of a pattern has to cover. -/
inductive Anchor
  | unanchored
  | start
  | both
  deriving DecidableEq, Repr, Inhabited

namespace Anchor

/-- Whether it is not enough to know that a pattern matches somewhere. -/
def needsSpan (a : Anchor) : Bool := a != unanchored

/-- Whether a span of a haystack of some length is as the anchor asks. -/
def accepts (a : Anchor) (s : Span) (length : Nat) : Bool :=
  match a with
  | unanchored => true
  | start => s.start = 0
  | both => s.start = 0 && s.stop = length

def name : Anchor → String
  | unanchored => "Unanchored"
  | start => "Start"
  | both => "Both"

end Anchor

end Multimatch
