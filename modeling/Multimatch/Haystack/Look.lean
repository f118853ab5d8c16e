import Multimatch.Utf8
import Multimatch.Unicode.Derived

/-!
Assertions on a place in a haystack. A place is given by the bytes behind it, the nearest first,
and the bytes ahead of it; an assertion looks at either and consumes nothing.
-/

namespace Multimatch

/-- What a word assertion asks of the two sides of a place. -/
inductive WordEdge
  /-- One side is a word character, the other is not. -/
  | boundary
  /-- Both sides are word characters, or neither is. -/
  | inside
  | start
  | finish
  | startHalf
  | finishHalf
  deriving DecidableEq, Repr, Hashable

/-- An assertion on a place. -/
inductive Look
  | textStart
  | textEnd
  /-- The start of a line; with `crlf`, a carriage return ends a line as well. -/
  | lineStart (crlf : Bool)
  /-- The end of a line; with `crlf`, before a carriage return as well. -/
  | lineEnd (crlf : Bool)
  /-- An edge of a word, words being made of Unicode word characters or of ASCII ones. -/
  | word (unicode : Bool) (edge : WordEdge)
  deriving DecidableEq, Repr, Hashable

namespace Look

def isWordByte (b : UInt8) : Bool :=
  (0x30 ≤ b && b ≤ 0x39) || (0x41 ≤ b && b ≤ 0x5A) || (0x61 ≤ b && b ≤ 0x7A) || b == 0x5F

/-- Whether a byte on one side of a place is a word character; at the end of the text it is not. -/
def wordByte : List UInt8 → Bool
  | [] => false
  | b :: _ => isWordByte b

def wordChar (decoded : Option Nat) : Bool :=
  match decoded with
  | some c => Unicode.wordCharacters.contains c
  | none => false

/-- Whether a word edge lies between the two sides, given which of them is a word character. -/
def edgeHolds (before after : Bool) : WordEdge → Bool
  | .boundary => before != after
  | .inside => before == after
  | .start => !before && after
  | .finish => before && !after
  | .startHalf => !before
  | .finishHalf => !after

/--
The sides that must decode for a Unicode word edge to hold: those on which the edge may have no
word character, so that it never falls within the encoding of a character.
-/
def decodes (behind ahead : List UInt8) : WordEdge → Bool
  | .boundary | .start | .finish => true
  | .inside => before && after
  | .startHalf => before
  | .finishHalf => after
where
  before : Bool := behind.isEmpty || (Utf8.decodeLast? behind).isSome
  after : Bool := ahead.isEmpty || (Utf8.decodeFirst? ahead).isSome

def holds (behind ahead : List UInt8) : Look → Bool
  | textStart => behind.isEmpty
  | textEnd => ahead.isEmpty
  | lineStart false => behind.isEmpty || behind.head? == some 0x0A
  | lineEnd false => ahead.isEmpty || ahead.head? == some 0x0A
  | lineStart true =>
    behind.isEmpty || behind.head? == some 0x0A ||
      (behind.head? == some 0x0D && ahead.head? != some 0x0A)
  | lineEnd true =>
    ahead.isEmpty || ahead.head? == some 0x0D ||
      (ahead.head? == some 0x0A && behind.head? != some 0x0D)
  | word false edge => edgeHolds (wordByte behind) (wordByte ahead) edge
  | word true edge =>
    decodes behind ahead edge &&
      edgeHolds (wordChar (Utf8.decodeLast? behind)) (wordChar (Utf8.decodeFirst? ahead)) edge

def isUnicodeWord : Look → Bool
  | word unicode _ => unicode
  | _ => false

end Look

end Multimatch
