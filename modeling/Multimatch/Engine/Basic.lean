import Multimatch.Engine.Candidates
import Multimatch.Engine.Failure
import Multimatch.Haystack.Span

/-!
What a set of patterns asks of an engine. A set neither reads nor matches patterns itself: it has
them compiled, one by one and all together, and asks the handles it gets.
-/

namespace Multimatch

/-- The capabilities of an engine. Equal questions have equal answers. -/
structure Engine where
  /-- A pattern that was compiled alone. -/
  Single : Type
  /-- Patterns that were compiled together; each is known by its index in the list. -/
  Combined : Type
  compileSingle : String → Except BuildError Single
  compileCombined : List String → Except BuildError Combined
  /-- Whether any of the patterns matches anywhere in the haystack. -/
  isMatch : Combined → Haystack → Except MatchError Bool
  /--
  Inserts the index of every pattern that matches anywhere in the haystack into a buffer, which is
  empty before and has room for all of them. A failed search may leave indices in it.
  -/
  whichMatch : Combined → Haystack → Candidates → Candidates × Except MatchError Unit
  /-- The span of the first match of a pattern. -/
  findFirst : Single → Haystack → Except MatchError (Option Span)

end Multimatch
