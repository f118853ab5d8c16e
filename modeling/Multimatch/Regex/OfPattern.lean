import Multimatch.Regex.Basic
import Multimatch.Pattern.Reader
import Multimatch.Unicode.Query
import Multimatch.Unicode.CaseFold

/-!
From the tree of a pattern to the regular expression it stands for: flags are followed through the
pattern, classes become sets, and what could match bytes outside UTF-8 is refused where the options
ask for that.
-/

namespace Multimatch

namespace Pattern

def NamedClass.set (c : NamedClass) : IntervalSet :=
  let of (l : List (Char × Char)) : IntervalSet :=
    IntervalSet.ofList (l.map fun (a, b) => ⟨a.toNat, b.toNat⟩)
  match c with
  | .alnum => of [('0', '9'), ('A', 'Z'), ('a', 'z')]
  | .alpha => of [('A', 'Z'), ('a', 'z')]
  | .ascii => of [('\x00', '\x7f')]
  | .blank => of [('\t', '\t'), (' ', ' ')]
  | .cntrl => of [('\x00', '\x1f'), ('\x7f', '\x7f')]
  | .digit => of [('0', '9')]
  | .graph => of [('!', '~')]
  | .lower => of [('a', 'z')]
  | .print => of [(' ', '~')]
  | .punct => of [('!', '/'), (':', '@'), ('[', '\x60'), ('\x7b', '~')]
  | .space => of [('\t', '\r'), (' ', ' ')]
  | .upper => of [('A', 'Z')]
  | .word => of [('0', '9'), ('A', 'Z'), ('_', '_'), ('a', 'z')]
  | .xdigit => of [('0', '9'), ('A', 'F'), ('a', 'f')]

def LetterClass.unicodeSet : LetterClass → IntervalSet
  | .digit => Unicode.decimalDigits
  | .space => Unicode.whiteSpace
  | .word => Unicode.wordCharacters

def LetterClass.asciiSet : LetterClass → IntervalSet
  | .digit => NamedClass.digit.set
  | .space => NamedClass.space.set
  | .word => NamedClass.word.set

/-- Closes a set under the case of ASCII letters. -/
def foldAsciiCase (s : IntervalSet) : IntervalSet :=
  let shifted (lo hi : Nat) (f : Nat → Nat) : List Interval :=
    s.intervals.filterMap fun i => (i.inter? ⟨lo, hi⟩).map fun j => ⟨f j.lo, f j.hi⟩
  IntervalSet.ofList
    (s.intervals ++ shifted 0x41 0x5A (· + 0x20) ++ shifted 0x61 0x7A (· - 0x20))

/-- How sets are formed: of scalar values or of bytes. -/
structure SetRules where
  alphabet : Alphabet
  /-- Closes a set under case. -/
  fold : IntervalSet → IntervalSet
  /-- The number of a character that is written out. -/
  literal : Literal → Except Fault Nat
  /-- The members of a letter's class. -/
  letter : LetterClass → IntervalSet
  /-- The members of a property. -/
  property : Property → Except Fault IntervalSet
  /-- Refuses a set that must not occur. -/
  check : IntervalSet → Except Fault IntervalSet

/-- A set closed under case if case does not count, and turned into its complement if negated. -/
def SetRules.finish (r : SetRules) (caseInsensitive negated : Bool) (s : IntervalSet) :
    Except Fault IntervalSet :=
  let s := if caseInsensitive then r.fold s else s
  r.check (if negated then s.complement r.alphabet else s)

def SetRules.letterSet (r : SetRules) (c : LetterClass) (negated : Bool) :
    Except Fault IntervalSet :=
  r.check (if negated then (r.letter c).complement r.alphabet else r.letter c)

def SetRules.propertySet (r : SetRules) (caseInsensitive : Bool) (p : Property) :
    Except Fault IntervalSet := do
  r.finish caseInsensitive p.negated (← r.property p)

def SetOp.apply (o : SetOp) (alphabet : Alphabet) (s t : IntervalSet) : IntervalSet :=
  match o with
  | .intersection => s.inter t
  | .difference => s.difference t alphabet
  | .symmetricDifference => s.symmetricDifference t alphabet

/-- The set that stands between brackets, before the outermost negation. -/
def Bracket.set (r : SetRules) (caseInsensitive : Bool) : Bracket → Except Fault IntervalSet
  | .nothing => .ok .empty
  | .literal l => do
    let n ← r.literal l
    .ok (.singleton n)
  | .range first last => do
    let lo ← r.literal first
    let hi ← r.literal last
    .ok ⟨[⟨lo, hi⟩]⟩
  | .named c negated => r.finish caseInsensitive negated c.set
  | .property p => r.propertySet caseInsensitive p
  | .letter c negated => r.letterSet c negated
  | .nested negated body => do
    r.finish caseInsensitive negated (← body.set r caseInsensitive)
  | .row x rest => do
    let s ← x.set r caseInsensitive
    let t ← rest.set r caseInsensitive
    .ok (s.union t)
  | .op o left right => do
    let s ← left.set r caseInsensitive
    let t ← right.set r caseInsensitive
    .ok (if caseInsensitive then o.apply r.alphabet (r.fold s) (r.fold t)
      else o.apply r.alphabet s t)

def Property.set (p : Property) : Except Fault IntervalSet :=
  let found := match p.value with
    | some value => Unicode.valued? p.name value
    | none => Unicode.named? p.name
  match found with
  | some s => .ok s
  | none => .error .propertyUnknown

def scalarRules : SetRules where
  alphabet := .scalars
  fold := Unicode.foldCase
  literal l := .ok l.char.toNat
  letter := LetterClass.unicodeSet
  property := Property.set
  check := .ok

/-- What a character that is written out means where Unicode is off: itself, or a byte. -/
def Literal.byte? (o : Options) (l : Literal) : Except Fault (Option Nat) :=
  if l.byte && 0x7F < l.char.toNat then
    if o.utf8 then .error .invalidUtf8 else .ok (some l.char.toNat)
  else .ok none

def byteRules (o : Options) : SetRules where
  alphabet := .bytes
  fold := foldAsciiCase
  literal l := do
    match ← l.byte? o with
    | some b => .ok b
    | none => if l.char.toNat ≤ 0x7F then .ok l.char.toNat else .error .unicodeOff
  letter := LetterClass.asciiSet
  property _ := .error .unicodeOff
  check s := if o.utf8 && !s.isAscii then .error .invalidUtf8 else .ok s

def setRules (o : Options) (f : Flags) : SetRules :=
  if f.unicode then scalarRules else byteRules o

/-- The expression for one member of a set formed under some flags. -/
def Flags.member (f : Flags) (s : IntervalSet) : Regex := if f.unicode then .char s else .byte s

def Literal.regex (o : Options) (f : Flags) (l : Literal) : Except Fault Regex := do
  if f.unicode then
    let s := IntervalSet.singleton l.char.toNat
    .ok (.char (if f.caseInsensitive then Unicode.foldCase s else s))
  else
    match ← l.byte? o with
    | some b => .ok (.byte (.singleton b))
    | none =>
      let s := IntervalSet.singleton l.char.toNat
      .ok (if f.caseInsensitive && l.char.toNat ≤ 0x7F then .byte (foldAsciiCase s) else .char s)

def dotRegex (o : Options) (f : Flags) : Except Fault Regex :=
  let ascii := o.lineTerminator ≤ 0x7F
  if o.utf8 && !(f.unicode && ascii) then .error .invalidUtf8
  else
    let alphabet := if f.unicode then Alphabet.scalars else Alphabet.bytes
    let except (l : List Nat) : Except Fault Regex :=
      .ok (f.member ((IntervalSet.ofList (l.map fun n => ⟨n, n⟩)).complement alphabet))
    if f.dotMatchesNewLine then except []
    else if f.crlf then except [0x0A, 0x0D]
    else if f.unicode && !ascii then .error .lineTerminatorNotAscii
    else except [o.lineTerminator.toNat]

/-- The assertion that is meant under some flags. -/
def Assertion.look (f : Flags) : Assertion → Look
  | .lineStart => if f.multiLine then .lineStart f.crlf else .textStart
  | .lineEnd => if f.multiLine then .lineEnd f.crlf else .textEnd
  | .textStart => .textStart
  | .textEnd => .textEnd
  | .word edge => .word f.unicode edge

/-- What a part of a pattern comes to: an expression, the number of groups that capture, and the
flags in force after it. -/
structure Meaning where
  regex : Regex
  captures : Nat
  flags : Flags

/-- What a tree means under the flags in force before it. -/
def Tree.meaning (o : Options) (f : Flags) : Tree → Except Fault Meaning
  | .empty => .ok ⟨.empty, 0, f⟩
  | .flags e => .ok ⟨.empty, 0, e.apply f⟩
  | .literal l => do .ok ⟨← l.regex o f, 0, f⟩
  | .dot => do .ok ⟨← dotRegex o f, 0, f⟩
  | .assertion a => .ok ⟨.look (a.look f), 0, f⟩
  | .property p => do
    if f.unicode then .ok ⟨.char (← scalarRules.propertySet f.caseInsensitive p), 0, f⟩
    else .error .unicodeOff
  | .letter c negated => do .ok ⟨f.member (← (setRules o f).letterSet c negated), 0, f⟩
  | .bracket negated body => do
    let r := setRules o f
    let s ← r.finish f.caseInsensitive negated (← body.set r f.caseInsensitive)
    .ok ⟨f.member s, 0, f⟩
  | .repetition x min max greedy => do
    let m ← x.meaning o f
    let regex := Regex.ofRep min max (greedy != m.flags.swapGreed) m.regex
    .ok ⟨regex, if max = some 0 then 0 else m.captures, m.flags⟩
  | .group kind x => do
    match kind with
    | .capture =>
      let m ← x.meaning o f
      .ok ⟨m.regex, m.captures + 1, f⟩
    | .flags e =>
      let m ← x.meaning o (e.apply f)
      .ok ⟨m.regex, m.captures, f⟩
  | .cat x rest => do
    let m ← x.meaning o f
    let n ← rest.meaning o m.flags
    .ok ⟨.cat 0 m.regex n.regex, m.captures + n.captures, n.flags⟩
  | .alt x rest => do
    let m ← x.meaning o f
    let n ← rest.meaning o m.flags
    .ok ⟨.alt 0 m.regex n.regex, m.captures + n.captures, n.flags⟩

end Pattern

/-- A pattern that was read: its expression, with labels, and the number of groups that capture. -/
structure Parsed where
  regex : Regex
  captures : Nat

/-- What a tree that was read under some options comes to. -/
def Parsed.ofTree (o : Pattern.Options) (tree : Pattern.Tree) : Except Pattern.Fault Parsed := do
  let m ← tree.meaning o o.flags
  .ok ⟨(m.regex.number 0).1, m.captures⟩

def Parsed.ofPattern (o : Pattern.Options) (pattern : String) : Except Pattern.Fault Parsed := do
  Parsed.ofTree o (← Pattern.read o pattern.toList)

end Multimatch
