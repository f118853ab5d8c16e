import Multimatch.Engine.Failure

/-!
What can go wrong with a set of patterns. A pattern that is refused leaves the set as it was; the
other errors tell of a step out of turn, or of an engine that failed on the set as a whole.
-/

namespace Multimatch

/-- Why an operation on a set has no answer. -/
inductive Error
  /-- The engine does not compile the pattern. -/
  | patternSyntax (pattern : String) (source : BuildError)
  /-- The set was compiled before, or the attempt was made. -/
  | alreadyFinalized
  /-- The engine does not compile the patterns together. -/
  | setCompilation (source : BuildError)
  | notCompiled
  /-- The engine failed in a search, which is not to say that nothing matches. -/
  | matchEngine (source : MatchError)
  deriving DecidableEq, Repr

/-- What an engine says of its failure. -/
inductive Cause
  | build (e : BuildError)
  | search (e : MatchError)
  deriving DecidableEq, Repr

def Cause.message : Cause → String
  | build e => e.message
  | search e => e.message

namespace Error

def message : Error → String
  | patternSyntax pattern source => s!"invalid pattern `{pattern}`: {source.message}"
  | alreadyFinalized => "regex set has already been compiled"
  | setCompilation source => s!"failed to compile regex set: {source.message}"
  | notCompiled => "regex set is not compiled"
  | matchEngine source => s!"regex set search failed: {source.message}"

/-- The engine's failure to compile, if that is what went wrong. -/
def diagnostic? : Error → Option BuildError
  | patternSyntax _ source | setCompilation source => some source
  | alreadyFinalized | notCompiled | matchEngine _ => none

/-- The engine's failure, if one is behind the error. -/
def source? : Error → Option Cause
  | patternSyntax _ source | setCompilation source => some (.build source)
  | matchEngine source => some (.search source)
  | alreadyFinalized | notCompiled => none

end Error

end Multimatch
