import Multimatch.Pattern.Options
import Multimatch.Haystack.Look

/-!
The syntax tree of a pattern: what its text says, before flags and tables give it a meaning.
`Tree.depth` is the nesting that the option `nestLimit` bounds.
-/

namespace Multimatch.Pattern

structure Literal where
  char : Char
  /-- Written as a backslash, an `x` and two hexadecimal digits, which can mean a byte. -/
  byte : Bool := false
  deriving DecidableEq, Repr

/-- The classes named by a letter after a backslash. -/
inductive LetterClass
  | digit
  | space
  | word
  deriving DecidableEq, Repr

/-- The ASCII classes written between `[:` and `:]`. -/
inductive NamedClass
  | alnum | alpha | ascii | blank | cntrl | digit | graph | lower | print | punct | space | upper
  | word | xdigit
  deriving DecidableEq, Repr

structure Property where
  name : List Char
  value : Option (List Char) := none
  negated : Bool
  deriving DecidableEq, Repr

inductive SetOp
  | intersection
  | difference
  | symmetricDifference
  deriving DecidableEq, Repr

inductive Bracket
  | nothing
  | literal (l : Literal)
  | range (first last : Literal)
  | named (c : NamedClass) (negated : Bool)
  | property (p : Property)
  | letter (c : LetterClass) (negated : Bool)
  | nested (negated : Bool) (body : Bracket)
  /-- Items side by side; the rest is again such a row. -/
  | row (first rest : Bracket)
  | op (o : SetOp) (l r : Bracket)
  deriving Repr

inductive Assertion
  | lineStart
  | lineEnd
  | textStart
  | textEnd
  | word (edge : WordEdge)
  deriving DecidableEq, Repr

/-- What a group does beside grouping. -/
inductive GroupKind
  | capture
  | flags (e : FlagEdit)
  deriving DecidableEq, Repr

inductive Tree
  | empty
  | flags (e : FlagEdit)
  | literal (l : Literal)
  | dot
  | assertion (a : Assertion)
  | property (p : Property)
  | letter (c : LetterClass) (negated : Bool)
  | bracket (negated : Bool) (body : Bracket)
  | repetition (x : Tree) (min : Nat) (max : Option Nat) (greedy : Bool)
  | group (kind : GroupKind) (x : Tree)
  /-- A concatenation; the rest is again one. -/
  | cat (first rest : Tree)
  /-- Alternatives, the preferred one first; the rest is again such a list. -/
  | alt (first rest : Tree)
  deriving Repr

def Bracket.ofItems : List Bracket → Bracket
  | [] => .nothing
  | [x] => x
  | x :: y :: rest => .row x (ofItems (y :: rest))

def Tree.ofItems : List Tree → Tree
  | [] => .empty
  | [x] => x
  | x :: y :: rest => .cat x (ofItems (y :: rest))

def Tree.ofBranches : List Tree → Tree
  | [] => .empty
  | [x] => x
  | x :: y :: rest => .alt x (ofBranches (y :: rest))

/--
How deep the parts of a bracket are nested. A row counts once, however long it is: `inRow` says
that the part goes on with a row already counted.
-/
def Bracket.depth (inRow : Bool) : Bracket → Nat
  | .nested _ body => body.depth false + 1
  | .row x rest => max (x.depth false) (rest.depth true) + (if inRow then 0 else 1)
  | .op _ l r => max (l.depth false) (r.depth false) + 1
  | _ => 0

/-- Which list a part of the tree goes on with. -/
inductive Spine
  | none
  | cat
  | alt
  deriving DecidableEq

/-- How deep the parts of a pattern are nested. A concatenation and a list of alternatives count
once, however long they are. -/
def Tree.depth (spine : Spine) : Tree → Nat
  | .bracket _ body => body.depth false + 1
  | .repetition x _ _ _ => x.depth .none + 1
  | .group _ x => x.depth .none + 1
  | .cat x rest => max (x.depth .none) (rest.depth .cat) + (if spine = .cat then 0 else 1)
  | .alt x rest => max (x.depth .none) (rest.depth .alt) + (if spine = .alt then 0 else 1)
  | _ => 0

end Multimatch.Pattern
