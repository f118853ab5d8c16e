import Multimatch.Pattern.Fault
import Multimatch.Text.ByteText

/-!
What can go wrong in an engine: when patterns are compiled, and when a haystack is searched. Each
failure is a cause; `message` says it in words.
-/

namespace Multimatch

/-- Why an automaton cannot be made of a pattern. -/
inductive AutomatonFault
  /-- The pattern cannot be read. -/
  | malformed (fault : Pattern.Fault)
  /-- The automaton would take more memory than the limit, in bytes. -/
  | tooLarge (limit : Nat)
  deriving DecidableEq, Repr

/-- Why an engine cannot compile patterns. -/
inductive BuildError
  /-- One of the patterns compiled together cannot be read. -/
  | pattern (index : Nat) (fault : Pattern.Fault)
  | automaton (cause : AutomatonFault)
  /-- An edge of a Unicode word, which a table of bytes cannot tell. -/
  | unicodeWordEdge
  /-- The table would take more memory than the limit, in bytes. -/
  | tableTooLarge (limit : Nat)
  /-- Filling the table would take more memory than the limit, in bytes. -/
  | workTooLarge (limit : Nat)
  /-- A failure that the engine tells in words of its own. -/
  | other (text : String)
  deriving DecidableEq, Repr

def BuildError.message : BuildError → String
  | pattern index _ => s!"error parsing pattern {index}"
  | automaton _ => "error building NFA"
  | unicodeWordEdge =>
    "unsupported regex feature for DFAs: cannot build DFAs for regexes with Unicode word " ++
      "boundaries; switch to ASCII word boundaries, or heuristically enable Unicode word " ++
      "boundaries or use a different regex engine"
  | tableTooLarge limit => s!"DFA exceeded size limit of {limit} during determinization"
  | workTooLarge limit => s!"determinization exceeded size limit of {limit}"
  | other text => text

/-- Where a search may begin its matches. -/
inductive SearchMode
  | floating
  | anchored
  /-- Where the search begins, and for one pattern only. -/
  | anchoredPattern (index : Nat)
  deriving DecidableEq, Repr

/-- Why an engine gives up a search. -/
inductive MatchError
  /-- A byte was seen that the engine does not take. -/
  | quit (byte : UInt8) (offset : Nat)
  | gaveUp (offset : Nat)
  | haystackTooLong (length : Nat)
  /-- The engine does not search in this way. -/
  | unsupported (mode : SearchMode)
  deriving DecidableEq, Repr

def SearchMode.message : SearchMode → String
  | floating => "unanchored searches are not supported or enabled"
  | anchored => "anchored searches are not supported or enabled"
  | anchoredPattern index =>
    s!"anchored searches for a specific pattern ({index}) are not supported or enabled"

def MatchError.message : MatchError → String
  | quit byte offset =>
    s!"quit search after observing byte {Text.byteText byte} at offset {offset}"
  | gaveUp offset => s!"gave up searching at offset {offset}"
  | haystackTooLong length => s!"haystack of length {length} is too long"
  | unsupported mode => mode.message

end Multimatch
