import Multimatch.Engine.Automata
import Multimatch.Regex.Literals
import Multimatch.Regex.OfPattern
import Multimatch.Regex.Size
import Multimatch.Search.Walk

/-!
Walks over expressions as backends. They read patterns, and go through a haystack byte by byte with
the threads of the expressions. An automaton for one pattern walks for the preferred match and one
for several for all matches, the kinds that engines ask for.

An alternation is walked as it is written, and a round of a loop that would take nothing is given
up, so the order in which matches are preferred need not be that of an automaton which has been
simplified. Where options do not ask for UTF-8, a walk also answers if an automaton that looks for
the start of a match from its end would find none. Sizes are estimates: that of an automaton adds up
its parts, and a table is too large only for limits that are too small for any table.
-/

namespace Multimatch

namespace General

/-- The limit of an automaton if none is set: ten mebibytes. -/
def defaultLimit : Nat := 10 * 1024 * 1024

def emptyMemory : Nat := 256

/-- The memory that a pattern adds to an automaton besides its parts. -/
def patternMemory : Nat := 128

/-- The memory that a group that captures adds to an automaton. -/
def captureMemory : Nat := 64

def memory (ps : List Parsed) : Nat :=
  ps.foldr (fun p n => p.regex.size + p.captures * captureMemory + patternMemory + n) emptyMemory

def checkMemory (limit : Nat) (ps : List Parsed) : Except BuildError Unit :=
  if memory ps ≤ limit then .ok () else .error (.automaton (.tooLarge limit))

/-- Reads items in order; the first that cannot be read is named by its index. -/
def readEach {α β : Type} (read : α → Except Pattern.Fault β) (index : Nat) :
    List α → Except BuildError (List β)
  | [] => .ok []
  | x :: rest =>
    match read x with
    | .error fault => .error (.pattern index fault)
    | .ok y => (readEach read (index + 1) rest).map (y :: ·)

/--
Reads patterns that are to be compiled together. What all of them say is read before any of them is
asked what it means, so a pattern that cannot be read goes before an earlier one that means nothing.
-/
def readAll (o : Pattern.Options) (patterns : List String) : Except BuildError (List Parsed) := do
  let trees ← readEach (Pattern.read o) 0 (patterns.map String.toList)
  readEach (Parsed.ofTree o) 0 trees

/-- A choice between a few plain texts needs no automaton. -/
def walkOne (s : Settings) (o : Pattern.Options) (pattern : String) : Except BuildError Regex :=
  match Parsed.ofPattern o pattern with
  | .error fault => .error (.pattern 0 fault)
  | .ok p =>
    if p.regex.isLiteralChoice p.captures then .ok p.regex
    else (checkMemory (s.automatonLimit?.getD defaultLimit) [p]).map fun _ => p.regex

def walkMany (s : Settings) (o : Pattern.Options) (patterns : List String) :
    Except BuildError (List Regex) := do
  let ps ← readAll o patterns
  checkMemory (s.automatonLimit?.getD defaultLimit) ps
  .ok (ps.map Parsed.regex)

/-- Walks that take every byte, and so never fail. -/
def walking : Backend where
  One := Regex
  Many := List Regex
  buildOne := walkOne
  buildMany := walkMany
  isMatch rs h := (Search.isMatch .empty rs h).toOption.getD false
  whichMatch rs h found := (Search.whichMatch .empty rs h found).1
  find r h :=
    match Search.find .empty r h with
    | .ok found => found
    | .error _ => none

end General

namespace Dense

inductive StartKind
  | both
  | unanchored
  | anchored
  deriving DecidableEq, Repr

/-- What walks that stand for tables heed of the settings of these. -/
structure WalkSettings where
  startKind : StartKind := .both
  /-- The bytes that end every search that comes upon them. -/
  quits : IntervalSet := .empty
  /-- Makes quit bytes of all bytes beyond ASCII where a pattern has an edge of a Unicode word. -/
  unicodeWordEdges : Bool := false
  /-- The greatest memory of a table, in bytes. -/
  tableLimit? : Option Nat := none
  /-- The greatest memory that filling a table may take besides the table, in bytes. -/
  workLimit? : Option Nat := none
  deriving DecidableEq, Repr

def nonAscii : IntervalSet := ⟨[⟨0x80, 0xFF⟩]⟩

def WalkSettings.quitsFor (s : WalkSettings) (rs : List Regex) : IntervalSet :=
  if s.unicodeWordEdges && rs.any Regex.hasUnicodeWord then s.quits.union nonAscii else s.quits

/-- The memory that any table takes at the least, and that filling it takes at the least. -/
def leastMemory : Nat := 24

/-- The limit, if there is one and it is too small for any table. -/
def tooSmall? (limit? : Option Nat) : Option Nat := limit?.filter (· < leastMemory)

/-- What a table stands for, with the bytes at which it quits. -/
structure Table (α : Type) where
  content : α
  quits : IntervalSet
  startKind : StartKind

/-- Makes a table for some expressions. Only tables that quit at all bytes beyond ASCII can tell the
edges of Unicode words. -/
def tabulate {α : Type} (s : WalkSettings) (content : α) (rs : List Regex) :
    Except BuildError (Table α) :=
  let quits := s.quitsFor rs
  if rs.any Regex.hasUnicodeWord && !(nonAscii.difference quits .bytes).isEmpty then
    .error .unicodeWordEdge
  else match tooSmall? s.tableLimit?, tooSmall? s.workLimit? with
    | some limit, _ => .error (.tableTooLarge limit)
    | none, some limit => .error (.workTooLarge limit)
    | none, none => .ok ⟨content, quits, s.startKind⟩

def read (o : Pattern.Options) (pattern : String) : Except BuildError Regex :=
  match Parsed.ofPattern o pattern with
  | .error fault => .error (.automaton (.malformed fault))
  | .ok p => .ok p.regex

def walkOne (s : WalkSettings) (o : Pattern.Options) (pattern : String) :
    Except BuildError (Table Regex) := do
  let r ← read o pattern
  tabulate s r [r]

def walkMany (s : WalkSettings) (o : Pattern.Options) (patterns : List String) :
    Except BuildError (Table (List Regex)) := do
  let rs ← patterns.mapM (read o)
  tabulate s rs rs

/-- The answer of a walk, which fails at a quit byte, and where a table begins at the start only. -/
def Table.answer {α β : Type} (t : Table α) (walked : Except Search.Quit β) : Except MatchError β :=
  if t.startKind = .anchored then .error (.unsupported .floating)
  else walked.mapError fun q => .quit q.byte q.offset

/-- Walks that stand for tables. They need not be told the kind of matches to look for. -/
def walking : Backend where
  Settings := WalkSettings
  unset := {}
  withMatchKind _ s := s
  One := Table Regex
  Many := Table (List Regex)
  buildOne s _ := walkOne s
  buildMany s _ := walkMany s
  earliestEnd t h := t.answer (Search.earliestEnd t.quits t.content h)
  whichMatch t h found :=
    if t.startKind = .anchored then (found, .error (.unsupported .floating))
    else
      let (found, done) := Search.whichMatch t.quits t.content h found
      (found, t.answer done)
  find t h := t.answer (Search.find t.quits t.content h)

end Dense

end Multimatch
