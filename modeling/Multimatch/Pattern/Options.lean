/-!
The options patterns are read under, and the flags of them that a pattern can change within itself.
-/

namespace Multimatch.Pattern

/-- How the text of a pattern is read. -/
structure Options where
  caseInsensitive : Bool := false
  /-- Line anchors match at line terminators, not only at the ends of the haystack. -/
  multiLine : Bool := false
  dotMatchesNewLine : Bool := false
  /-- A carriage return, alone or before a line feed, ends a line too. -/
  crlf : Bool := false
  /-- Plain repetitions are lazy, and those marked with a question mark greedy. -/
  swapGreed : Bool := false
  ignoreWhitespace : Bool := false
  /-- Characters and classes are those of Unicode, not of ASCII. -/
  unicode : Bool := true
  /-- No pattern may match within the encoding of a character or match anything but UTF-8. -/
  utf8 : Bool := true
  octal : Bool := false
  /-- The byte a dot does not match. -/
  lineTerminator : UInt8 := 0x0A
  /-- How deep the parts of a pattern may be nested. -/
  nestLimit : Nat := 250
  deriving DecidableEq, Repr

/-- The flags in force at some point of a pattern. -/
structure Flags where
  caseInsensitive : Bool
  multiLine : Bool
  dotMatchesNewLine : Bool
  swapGreed : Bool
  unicode : Bool
  crlf : Bool
  deriving DecidableEq, Repr

def Options.flags (o : Options) : Flags where
  caseInsensitive := o.caseInsensitive
  multiLine := o.multiLine
  dotMatchesNewLine := o.dotMatchesNewLine
  swapGreed := o.swapGreed
  unicode := o.unicode
  crlf := o.crlf

/-- A change of flags as a pattern writes it: each flag is turned on, turned off or left alone. -/
structure FlagEdit where
  caseInsensitive : Option Bool := none
  multiLine : Option Bool := none
  dotMatchesNewLine : Option Bool := none
  swapGreed : Option Bool := none
  unicode : Option Bool := none
  crlf : Option Bool := none
  ignoreWhitespace : Option Bool := none
  deriving DecidableEq, Repr

namespace FlagEdit

/-- Adds the change of one flag, named by its letter; none if the letter names no flag or its flag
was mentioned before. -/
def add? (e : FlagEdit) (letter : Char) (value : Bool) : Option FlagEdit :=
  let once (old : Option Bool) (new : FlagEdit) : Option FlagEdit :=
    if old = none then some new else none
  match letter with
  | 'i' => once e.caseInsensitive { e with caseInsensitive := some value }
  | 'm' => once e.multiLine { e with multiLine := some value }
  | 's' => once e.dotMatchesNewLine { e with dotMatchesNewLine := some value }
  | 'U' => once e.swapGreed { e with swapGreed := some value }
  | 'u' => once e.unicode { e with unicode := some value }
  | 'R' => once e.crlf { e with crlf := some value }
  | 'x' => once e.ignoreWhitespace { e with ignoreWhitespace := some value }
  | _ => none

def apply (e : FlagEdit) (f : Flags) : Flags where
  caseInsensitive := e.caseInsensitive.getD f.caseInsensitive
  multiLine := e.multiLine.getD f.multiLine
  dotMatchesNewLine := e.dotMatchesNewLine.getD f.dotMatchesNewLine
  swapGreed := e.swapGreed.getD f.swapGreed
  unicode := e.unicode.getD f.unicode
  crlf := e.crlf.getD f.crlf

end FlagEdit

end Multimatch.Pattern
