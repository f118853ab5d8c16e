import Multimatch.Engine.Failure
import Multimatch.PatternSet.Anchor

/-!
The log of a set: what it tells of each operation, in order.
-/

namespace Multimatch

/-- How much an event matters. -/
inductive Level
  | trace
  | debug
  | warn
  deriving DecidableEq, Repr

def Level.name : Level → String
  | trace => "TRACE"
  | debug => "DEBUG"
  | warn => "WARN"

/-- Something a set tells of an operation. -/
inductive Event
  | lateAddition (pattern : String)
  | patternRefused (pattern : String) (error : BuildError)
  | repeatedCompile
  | compiled (patterns : Nat) (anchor : Anchor)
  | compileFailed (error : BuildError)
  | earlySearch
  /-- A pattern that matches somewhere has a first match that the anchor does not accept. -/
  | rejected (index : Nat) (first : Option Span)
  deriving DecidableEq, Repr

/-- The value of something an event carries. -/
inductive Detail
  | text (s : String)
  | number (n : Nat)
  deriving DecidableEq, Repr

/-- A span, if there is one, in words. -/
def spanText : Option Span → String
  | none => "None"
  | some s => s!"Some({s.start}..{s.stop})"

namespace Event

/-- How much the event matters: refusals out of turn are warnings, so is a failed compilation. -/
def level : Event → Level
  | lateAddition _ | repeatedCompile | compileFailed _ | earlySearch => .warn
  | patternRefused _ _ | compiled _ _ => .debug
  | rejected _ _ => .trace

def message : Event → String
  | lateAddition _ => "pattern added to a compiled regex set"
  | patternRefused _ _ => "invalid pattern"
  | repeatedCompile => "regex set compiled more than once"
  | compiled _ _ => "compiled regex set"
  | compileFailed _ => "failed to compile regex set"
  | earlySearch => "regex set searched before compiling"
  | rejected _ _ => "candidate rejected by anchor"

/-- What the event carries, by name. -/
def details : Event → List (String × Detail)
  | lateAddition pattern => [("pattern", .text pattern)]
  | patternRefused pattern error => [("pattern", .text pattern), ("error", .text error.message)]
  | repeatedCompile | earlySearch => []
  | compiled patterns anchor => [("patterns", .number patterns), ("anchor", .text anchor.name)]
  | compileFailed error => [("error", .text error.message)]
  | rejected index first => [("index", .number index), ("first", .text (spanText first))]

end Event

end Multimatch
