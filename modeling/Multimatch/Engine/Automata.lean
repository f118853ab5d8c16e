import Multimatch.Engine.Basic
import Multimatch.Pattern.Options

/-!
Engines that leave it to automata to read patterns and to match them. A backend offers such
automata; an engine settles how they are made of its patterns and what they are asked. The general
engine has an answer to every search. The dense one is made of tables, and hands on their failures.
-/

namespace Multimatch

inductive MatchKind
  | all
  | leftmostFirst
  deriving DecidableEq, Repr

/-- The groups of a pattern of which an automaton keeps the spans. -/
inductive Captures
  | all
  /-- The one around the whole pattern. -/
  | implicit
  | none
  deriving DecidableEq, Repr

namespace General

/-- How automata are made. A limit that is not set is left to the backend. -/
structure Settings where
  matchKind : MatchKind := .leftmostFirst
  captures : Captures := .all
  /-- The greatest memory of an automaton, in bytes. -/
  automatonLimit? : Option Nat := none
  /-- The greatest memory of a table that may stand for an automaton, in bytes. -/
  tableLimit? : Option Nat := none
  deriving DecidableEq, Repr

/-- Automata that answer every search: for one pattern, and for several known by their indices. -/
structure Backend where
  One : Type
  Many : Type
  buildOne : Settings → Pattern.Options → String → Except BuildError One
  buildMany : Settings → Pattern.Options → List String → Except BuildError Many
  isMatch : Many → Haystack → Bool
  whichMatch : Many → Haystack → Candidates → Candidates
  find : One → Haystack → Option Span

structure Config where
  options : Pattern.Options := {}
  automatonLimit? : Option Nat := none
  /-- The limit of automata of several patterns, if they have one of their own. -/
  combinedLimit? : Option Nat := none
  tableLimit? : Option Nat := none
  deriving DecidableEq, Repr

namespace Config

def settings (c : Config) : Settings where
  automatonLimit? := c.automatonLimit?
  tableLimit? := c.tableLimit?

/-- How the automaton of several patterns is made: it looks for all matches, or it would not tell
every pattern, and for no groups. -/
def combinedSettings (c : Config) : Settings :=
  let s := { c.settings with matchKind := .all, captures := .implicit }
  match c.combinedLimit? with
  | some limit => { s with automatonLimit? := some limit }
  | none => s

end Config

def engine (B : Backend) (c : Config) : Engine where
  Single := B.One
  Combined := B.Many
  compileSingle := B.buildOne c.settings c.options
  compileCombined := B.buildMany c.combinedSettings c.options
  isMatch m h := .ok (B.isMatch m h)
  whichMatch m h found := (B.whichMatch m h found, .ok ())
  findFirst one h := .ok (B.find one h)

end General

namespace Dense

/-- Tables, with settings of their own, of which an engine changes the kind of matches only. -/
structure Backend where
  Settings : Type
  unset : Settings
  withMatchKind : MatchKind → Settings → Settings
  One : Type
  Many : Type
  buildOne : Settings → Captures → Pattern.Options → String → Except BuildError One
  buildMany : Settings → Captures → Pattern.Options → List String → Except BuildError Many
  /-- Where the match ends that is seen first. -/
  earliestEnd : Many → Haystack → Except MatchError (Option Nat)
  whichMatch : Many → Haystack → Candidates → Candidates × Except MatchError Unit
  find : One → Haystack → Except MatchError (Option Span)

structure Config (B : Backend) where
  options : Pattern.Options := {}
  settings : B.Settings := B.unset

/-- The configured kind of matches has no say: one pattern has its preferred match found, several
have all of them. -/
def engine (B : Backend) (c : Config B) : Engine where
  Single := B.One
  Combined := B.Many
  compileSingle := B.buildOne (B.withMatchKind .leftmostFirst c.settings) .none c.options
  compileCombined := B.buildMany (B.withMatchKind .all c.settings) .none c.options
  isMatch t h := (B.earliestEnd t h).map Option.isSome
  whichMatch := B.whichMatch
  findFirst := B.find

end Dense

end Multimatch
