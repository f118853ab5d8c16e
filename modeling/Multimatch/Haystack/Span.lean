/-!
Spans of a haystack.
-/

namespace Multimatch

/-- The bytes that are searched. -/
abbrev Haystack := List UInt8

/-- A stretch of a haystack, from an offset up to another. -/
structure Span where
  start : Nat
  stop : Nat
  deriving DecidableEq, Repr

end Multimatch
