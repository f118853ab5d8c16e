import Multimatch.Engine.Basic
import Multimatch.PatternSet.Error
import Multimatch.PatternSet.Event
import Multimatch.PatternSet.Scratch
import Multimatch.Text.Quoted

/-!
Sets of patterns over an engine. A set is built up pattern by pattern, compiled once, and searched
after that. An operation gives its answer, what it told the log, and the set it leaves.
-/

namespace Multimatch

/-- How far a set has come. -/
inductive Phase
  | building
  | compiled
  | failed
  deriving DecidableEq, Repr

def Phase.name : Phase → String
  | building => "Building"
  | compiled => "Compiled"
  | failed => "Failed"

/-- How far a set has come, with what it holds then. -/
inductive Stage (E : Engine)
  | building
  /-- It can be searched; the buffers are as large as the set. -/
  | compiled (combined : E.Combined) (scratch : Scratch)
  | failed

def Stage.phase {E : Engine} : Stage E → Phase
  | building => .building
  | compiled _ _ => .compiled
  | failed => .failed

def Stage.name {E : Engine} (stage : Stage E) : String := stage.phase.name

/-- A set of patterns, each known by its index. -/
structure PatternSet (E : Engine) where
  anchor : Anchor
  patterns : List String
  /-- The patterns compiled alone, which only an anchored set needs. -/
  verifiers : List E.Single
  stage : Stage E

/-- What an operation on a set comes to. -/
structure Outcome (E : Engine) (α : Type) where
  answer : Except Error α
  /-- What the log was told, in order. -/
  events : List Event
  /-- The set after the operation. -/
  set : PatternSet E

namespace PatternSet

variable {E : Engine}

def new (E : Engine) (anchor : Anchor) : PatternSet E := ⟨anchor, [], [], .building⟩

def size (s : PatternSet E) : Nat := s.patterns.length

def isEmpty (s : PatternSet E) : Bool := s.patterns.isEmpty

def isCompiled (s : PatternSet E) : Bool :=
  match s.stage with
  | .compiled _ _ => true
  | .building | .failed => false

def isFailed (s : PatternSet E) : Bool :=
  match s.stage with
  | .failed => true
  | .building | .compiled _ _ => false

/-- Adds a pattern, if the engine compiles it, and answers with its index. -/
def add (s : PatternSet E) (pattern : String) : Outcome E Nat :=
  match s.stage with
  | .compiled _ _ | .failed => ⟨.error .alreadyFinalized, [.lateAddition pattern], s⟩
  | .building =>
    match E.compileSingle pattern with
    | .error source =>
      ⟨.error (.patternSyntax pattern source), [.patternRefused pattern source], s⟩
    | .ok single =>
      let verifiers := if s.anchor.needsSpan then s.verifiers ++ [single] else s.verifiers
      ⟨.ok s.size, [], { s with patterns := s.patterns ++ [pattern], verifiers }⟩

/-- Compiles the patterns together, once. If the engine fails, so does the set. -/
def compile (s : PatternSet E) : Outcome E Unit :=
  match s.stage with
  | .compiled _ _ | .failed => ⟨.error .alreadyFinalized, [.repeatedCompile], s⟩
  | .building =>
    match E.compileCombined s.patterns with
    | .error source =>
      ⟨.error (.setCompilation source), [.compileFailed source],
        { s with verifiers := [], stage := .failed }⟩
    | .ok combined =>
      ⟨.ok (), [.compiled s.size s.anchor], { s with stage := .compiled combined (.new s.size) }⟩

/-- Moves the set out: the set as it was, and the failed, empty one that stays behind. -/
def take (s : PatternSet E) : PatternSet E × PatternSet E := (s, ⟨s.anchor, [], [], .failed⟩)

/-- The text that shows the set: its anchor, its patterns quoted, and its stage. -/
def text (s : PatternSet E) : String :=
  "RegexSet \x7b anchor: " ++ s.anchor.name ++ ", patterns: [" ++
    ", ".intercalate (s.patterns.map fun p => String.ofList (Text.quoted p)) ++
    "], state: \"" ++ s.stage.name ++ "\" \x7d"

end PatternSet

end Multimatch
