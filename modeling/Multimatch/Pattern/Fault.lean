/-!
What can be wrong with the text of a pattern.
-/

namespace Multimatch.Pattern

/-- Why a text is no pattern. -/
inductive Fault
  /-- A step of the reader took nothing in; it has no rule for what follows. -/
  | stuck
  | nestedTooDeep (limit : Nat)
  | escapeUnfinished
  | escapeUnknown (c : Char)
  | backreference
  | hexDigitExpected
  | hexEmpty
  | notAScalar
  | wordEdgeUnfinished
  | wordEdgeUnknown
  | propertyNameExpected
  | groupUnclosed
  | groupUnopened
  | lookAround
  | groupNameUnfinished
  | groupNameEmpty
  | groupNameInvalid
  | groupNameRepeated
  | flagsUnfinished
  | flagUnknownOrRepeated
  | negationRepeated
  | negationDangling
  | repetitionMissing
  | countUnclosed
  | countEmpty
  | countTooLarge
  | countInvalid
  | classUnclosed
  | classItemInvalid
  | classRangeNotLiteral
  | classRangeInvalid
  /-- A property, a value or a character that needs Unicode where Unicode is off. -/
  | unicodeOff
  | propertyUnknown
  /-- Would match bytes that are not UTF-8 where only UTF-8 is allowed. -/
  | invalidUtf8
  | lineTerminatorNotAscii
  deriving DecidableEq, Repr

end Multimatch.Pattern
