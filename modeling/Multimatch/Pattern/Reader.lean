import Multimatch.Pattern.Tree
import Multimatch.Pattern.Fault

/-!
Reading the text of a pattern into a tree. Readers take the rest of the text and return what they
read with the rest after it. Where whitespace is ignored, `skip` passes over blanks and comments;
the flag for it is called `verbose` here.
-/

namespace Multimatch.Pattern

def isBlank (c : Char) : Bool := Unicode.whiteSpace.contains c.toNat

/-- Passes over blanks and comments, which run from a number sign to the end of the line. -/
def skipBlanks (inComment : Bool) : List Char → List Char
  | [] => []
  | c :: rest =>
    if inComment then skipBlanks (c != '\n') rest
    else if isBlank c then skipBlanks false rest
    else if c = '#' then skipBlanks true rest
    else c :: rest

/-- Passes over blanks and comments if they do not count. -/
def skip (verbose : Bool) (text : List Char) : List Char :=
  if verbose then skipBlanks false text else text

/-- The first character that is not blank, a single number sign passed over. -/
def peekBlanks (passed : Bool) : List Char → Option Char
  | [] => none
  | c :: rest =>
    if isBlank c then peekBlanks passed rest
    else if !passed && c = '#' then peekBlanks true rest
    else some c

/-- The character that decides what a hyphen in brackets means, given the text after the hyphen. -/
def peek (verbose : Bool) (text : List Char) : Option Char :=
  if verbose then peekBlanks false text <|> text.head? else text.head?

/-- How a reading step goes on. -/
inductive Progress (σ α : Type)
  | more (state : σ)
  | done (value : α)

/-- Repeats a reading step until it is done. A step that takes nothing in is not repeated. -/
def repeatStep {σ α : Type} (step : σ → List Char → Except Fault (Progress σ α × List Char))
    (state : σ) (text : List Char) : Except Fault (α × List Char) :=
  match step state text with
  | .error f => .error f
  | .ok (.done value, rest) => .ok (value, rest)
  | .ok (.more state, rest) =>
    if rest.length < text.length then repeatStep step state rest else .error .stuck
termination_by text.length

/-! ## Numbers -/

def isDecimal (c : Char) : Bool := '0' ≤ c && c ≤ '9'

def isHex (c : Char) : Bool := isDecimal c || ('a' ≤ c && c ≤ 'f') || ('A' ≤ c && c ≤ 'F')

def isOctal (c : Char) : Bool := '0' ≤ c && c ≤ '7'

theorem length_skipBlanks_le (inComment : Bool) (text : List Char) :
    (skipBlanks inComment text).length ≤ text.length := by
  induction text generalizing inComment with
  | nil => simp [skipBlanks]
  | cons c rest ih =>
    unfold skipBlanks
    split
    · exact Nat.le_succ_of_le (ih _)
    · split
      · exact Nat.le_succ_of_le (ih _)
      · split
        · exact Nat.le_succ_of_le (ih _)
        · exact Nat.le_refl _

theorem length_skip_le (verbose : Bool) (text : List Char) :
    (skip verbose text).length ≤ text.length := by
  unfold skip
  split
  · exact length_skipBlanks_le false text
  · exact Nat.le_refl _

def readDigits (verbose : Bool) (digits : List Char) : List Char → List Char × List Char
  | [] => (digits.reverse, [])
  | c :: rest =>
    if isDecimal c then readDigits verbose (c :: digits) (skip verbose rest)
    else (digits.reverse, c :: rest)
termination_by text => text.length
decreasing_by
  have := length_skip_le verbose rest
  simp
  omega

def decimalNumber (digits : List Char) : Nat :=
  digits.foldl (fun n c => 10 * n + (c.toNat - '0'.toNat)) 0

/-- Reads a count, which may have blanks around it and fits in 32 bits. -/
def readCount (verbose : Bool) (text : List Char) : Except Fault (Nat × List Char) :=
  let (digits, rest) := readDigits verbose [] (text.dropWhile isBlank)
  let rest := match rest with
    | c :: _ => if isBlank c then skip verbose (rest.dropWhile isBlank) else rest
    | [] => []
  if digits.isEmpty then .error .countEmpty
  else if decimalNumber digits < 0x100000000 then .ok (decimalNumber digits, rest)
  else .error .countTooLarge

def scalar? (n : Nat) : Option Char :=
  if Utf8.isScalar n then some (Char.ofNat n) else none

def readHexDigits (verbose : Bool) (count : Nat) (digits : List Char) (text : List Char) :
    Except Fault (List Char × List Char) :=
  match count, text with
  | 0, text => .ok (digits.reverse, text)
  | _ + 1, [] => .error .escapeUnfinished
  | n + 1, c :: rest =>
    if isHex c then readHexDigits verbose n (c :: digits) (skip verbose rest)
    else .error .hexDigitExpected

def hexBraceStep (verbose : Bool) (digits : List Char) :
    List Char → Except Fault (Progress (List Char) (List Char) × List Char)
  | [] => .error .escapeUnfinished
  | c :: rest =>
    if c = '\x7d' then .ok (.done digits.reverse, skip verbose rest)
    else if isHex c then .ok (.more (c :: digits), skip verbose rest)
    else .error .hexDigitExpected

/-- Reads a scalar value in hexadecimal after the letter of its escape: in braces, or with the
number of digits that goes with the letter. -/
def readHex (verbose : Bool) (letter : Char) (text : List Char) :
    Except Fault (Literal × List Char) := do
  match skip verbose text with
  | [] => .error .escapeUnfinished
  | '\x7b' :: rest =>
    let (digits, rest) ← repeatStep (hexBraceStep verbose) [] (skip verbose rest)
    if digits.isEmpty then .error .hexEmpty
    else match scalar? (Unicode.hexNumber digits) with
      | some c => .ok (⟨c, false⟩, rest)
      | none => .error .notAScalar
  | text =>
    let count := if letter = 'x' then 2 else if letter = 'u' then 4 else 8
    let (digits, rest) ← readHexDigits verbose count [] text
    match scalar? (Unicode.hexNumber digits) with
    | some c => .ok (⟨c, letter = 'x'⟩, rest)
    | none => .error .notAScalar

def readOctal (text : List Char) : Literal × List Char :=
  let digits := (text.take 3).takeWhile isOctal
  let n := digits.foldl (fun n c => 8 * n + (c.toNat - '0'.toNat)) 0
  (⟨Char.ofNat n, false⟩, text.drop digits.length)

/-! ## Escapes -/

/-- What an escape or a single character stands for. -/
inductive Atom
  | literal (l : Literal)
  | assertion (a : Assertion)
  | property (p : Property)
  | letter (c : LetterClass) (negated : Bool)

def splitAt? (separator : List Char) : List Char → Option (List Char × List Char)
  | [] => none
  | c :: rest =>
    if separator.isPrefixOf (c :: rest) then some ([], (c :: rest).drop separator.length)
    else (splitAt? separator rest).map fun (before, after) => (c :: before, after)

/-- The property that a text in braces asks for: a name, or a name and a value that are equal or,
with an exclamation mark, differ. -/
def propertyOfText (negated : Bool) (text : List Char) : Property :=
  match splitAt? ['!', '='] text with
  | some (name, value) => ⟨name, some value, !negated⟩
  | none =>
    match splitAt? [':'] text with
    | some (name, value) => ⟨name, some value, negated⟩
    | none =>
      match splitAt? ['='] text with
      | some (name, value) => ⟨name, some value, negated⟩
      | none => ⟨text, none, negated⟩

def propertyStep (verbose : Bool) (seen : List Char) :
    List Char → Except Fault (Progress (List Char) (List Char) × List Char)
  | [] => .error .escapeUnfinished
  | c :: rest =>
    if c = '\x7d' then .ok (.done seen.reverse, rest)
    else .ok (.more (c :: seen), skip verbose rest)

/-- Reads a property after the letter of its escape: in braces, or a single letter. -/
def readProperty (verbose negated : Bool) (text : List Char) :
    Except Fault (Property × List Char) := do
  match skip verbose text with
  | [] => .error .escapeUnfinished
  | '\x7b' :: rest =>
    let (name, rest) ← repeatStep (propertyStep verbose) [] (skip verbose rest)
    .ok (propertyOfText negated name, rest)
  | c :: rest =>
    if c = '\\' then .error .propertyNameExpected else .ok (⟨[c], none, negated⟩, rest)

def isEdgeChar (c : Char) : Bool := ('A' ≤ c && c ≤ 'Z') || ('a' ≤ c && c ≤ 'z') || c = '-'

def edgeStep (verbose : Bool) (seen : List Char) :
    List Char → Except Fault (Progress (List Char) (List Char) × List Char)
  | [] => .error .wordEdgeUnfinished
  | c :: rest =>
    if isEdgeChar c then .ok (.more (c :: seen), skip verbose rest)
    else if c = '\x7d' then .ok (.done seen.reverse, rest)
    else .error .wordEdgeUnfinished

/-- Reads the name in braces that may follow a word boundary. Braces that begin with nothing like a
name are left for a repetition. -/
def readEdge (verbose : Bool) (text : List Char) : Except Fault (WordEdge × List Char) := do
  match text with
  | '\x7b' :: rest =>
    match skip verbose rest with
    | [] => .error .wordEdgeUnfinished
    | c :: rest =>
      if isEdgeChar c then
        let (name, rest) ← repeatStep (edgeStep verbose) [] (c :: rest)
        match String.ofList name with
        | "start" => .ok (.start, rest)
        | "end" => .ok (.finish, rest)
        | "start-half" => .ok (.startHalf, rest)
        | "end-half" => .ok (.finishHalf, rest)
        | _ => .error .wordEdgeUnknown
      else .ok (.boundary, text)
  | _ => .ok (.boundary, text)

/-- Whether a backslash before the character gives the character: all of ASCII but letters, digits
and angle brackets. -/
def isEscapable (c : Char) : Bool :=
  c.toNat ≤ 0x7F && !isDecimal c && !('A' ≤ c && c ≤ 'Z') && !('a' ≤ c && c ≤ 'z') &&
    c != '<' && c != '>'

def controlEscape? : Char → Option Char
  | 'a' => some '\x07'
  | 'f' => some '\x0c'
  | 't' => some '\t'
  | 'n' => some '\n'
  | 'r' => some '\r'
  | 'v' => some '\x0b'
  | _ => none

def readEscape (octal verbose : Bool) : List Char → Except Fault (Atom × List Char)
  | [] => .error .escapeUnfinished
  | c :: rest => do
    if isDecimal c && !octal then .error .backreference
    else if isOctal c then
      let (l, rest) := readOctal (c :: rest)
      .ok (.literal l, rest)
    else if isEscapable c then .ok (.literal ⟨c, false⟩, rest)
    else match controlEscape? c with
      | some c => .ok (.literal ⟨c, false⟩, rest)
      | none =>
        match c with
        | 'x' | 'u' | 'U' =>
          let (l, rest) ← readHex verbose c rest
          .ok (.literal l, rest)
        | 'p' | 'P' =>
          let (p, rest) ← readProperty verbose (c = 'P') rest
          .ok (.property p, rest)
        | 'd' => .ok (.letter .digit false, rest)
        | 'D' => .ok (.letter .digit true, rest)
        | 's' => .ok (.letter .space false, rest)
        | 'S' => .ok (.letter .space true, rest)
        | 'w' => .ok (.letter .word false, rest)
        | 'W' => .ok (.letter .word true, rest)
        | 'A' => .ok (.assertion .textStart, rest)
        | 'z' => .ok (.assertion .textEnd, rest)
        | 'b' =>
          let (edge, rest) ← readEdge verbose rest
          .ok (.assertion (.word edge), rest)
        | 'B' => .ok (.assertion (.word .inside), rest)
        | '<' => .ok (.assertion (.word .start), rest)
        | '>' => .ok (.assertion (.word .finish), rest)
        | _ => .error (.escapeUnknown c)

/-! ## Brackets -/

/-- A bracket that is being read: its items so far, the latest first, and what an operator before
them stands between. -/
structure OpenBracket where
  negated : Bool
  items : List Bracket
  pending : Option (Bracket × SetOp) := none

/-- The items so far as one set. Operators group to the left and bind weaker than juxtaposition. -/
def OpenBracket.set (b : OpenBracket) : Bracket :=
  let last := Bracket.ofItems b.items.reverse
  match b.pending with
  | some (left, o) => .op o left last
  | none => last

def OpenBracket.push (b : OpenBracket) (item : Bracket) : OpenBracket :=
  { b with items := item :: b.items }

def NamedClass.ofName? : String → Option NamedClass
  | "alnum" => some .alnum
  | "alpha" => some .alpha
  | "ascii" => some .ascii
  | "blank" => some .blank
  | "cntrl" => some .cntrl
  | "digit" => some .digit
  | "graph" => some .graph
  | "lower" => some .lower
  | "print" => some .print
  | "punct" => some .punct
  | "space" => some .space
  | "upper" => some .upper
  | "word" => some .word
  | "xdigit" => some .xdigit
  | _ => none

/-- Reads an ASCII class after its opening bracket, if there is one; nothing else is a fault. -/
def readNamedClass? (text : List Char) : Option (Bracket × List Char) :=
  match text with
  | ':' :: rest =>
    let (negated, rest) := match rest with
      | '^' :: rest => (true, rest)
      | _ => (false, rest)
    match rest.span (· != ':') with
    | (name, ':' :: ']' :: rest) =>
      (NamedClass.ofName? (String.ofList name)).map fun c => (.named c negated, rest)
    | _ => none
  | _ => none

/-- Reads hyphens at the start of a bracket, which stand for themselves. -/
def hyphenStep (verbose : Bool) (items : List Bracket) :
    List Char → Except Fault (Progress (List Bracket) (List Bracket) × List Char)
  | [] => .error .classUnclosed
  | '-' :: rest => .ok (.more (.literal ⟨'-', false⟩ :: items), skip verbose rest)
  | text => .ok (.done items, text)

/-- Reads the start of a bracket after the opening one: a caret that negates it, hyphens that stand
for themselves and, without them, a closing bracket that does. -/
def readBracketStart (verbose : Bool) (text : List Char) :
    Except Fault (OpenBracket × List Char) := do
  let (negated, text) := match skip verbose text with
    | '^' :: rest => (true, skip verbose rest)
    | text => (false, text)
  let (items, text) ← repeatStep (hyphenStep verbose) [] text
  match items, text with
  | [], ']' :: rest =>
    match skip verbose rest with
    | [] => .error .classUnclosed
    | text => .ok (⟨negated, [.literal ⟨']', false⟩], none⟩, text)
  | _, text => .ok (⟨negated, items, none⟩, text)

/-- Reads one character or escape in brackets. -/
def readBracketAtom (octal verbose : Bool) : List Char → Except Fault (Atom × List Char)
  | [] => .error .classUnclosed
  | '\\' :: rest => readEscape octal verbose rest
  | c :: rest => .ok (.literal ⟨c, false⟩, rest)

def Atom.toBracket : Atom → Except Fault Bracket
  | .literal l => .ok (.literal l)
  | .property p => .ok (.property p)
  | .letter c negated => .ok (.letter c negated)
  | .assertion _ => .error .classItemInvalid

def Atom.toLiteral : Atom → Except Fault Literal
  | .literal l => .ok l
  | _ => .error .classRangeNotLiteral

/-- Reads an item in brackets: a range, or a single atom. A hyphen before a closing bracket or
another hyphen makes no range. -/
def readBracketItem (octal verbose : Bool) (text : List Char) :
    Except Fault (Bracket × List Char) := do
  let (first, rest) ← readBracketAtom octal verbose text
  match skip verbose rest with
  | [] => .error .classUnclosed
  | '-' :: rest =>
    if peek verbose rest == some ']' || peek verbose rest == some '-' then
      .ok (← first.toBracket, '-' :: rest)
    else
      let (last, rest) ← readBracketAtom octal verbose (skip verbose rest)
      let lo ← first.toLiteral
      let hi ← last.toLiteral
      if lo.char ≤ hi.char then .ok (.range lo hi, rest) else .error .classRangeInvalid
  | rest => .ok (← first.toBracket, rest)

def readSetOp? : List Char → Option (SetOp × List Char)
  | '&' :: '&' :: rest => some (.intersection, rest)
  | '-' :: '-' :: rest => some (.difference, rest)
  | '~' :: '~' :: rest => some (.symmetricDifference, rest)
  | _ => none

/-- Reads one thing within brackets. The state is the innermost open bracket and those around it. -/
def bracketStep (octal verbose : Bool) (state : OpenBracket × List OpenBracket)
    (text : List Char) :
    Except Fault ((Progress (OpenBracket × List OpenBracket) Tree) × List Char) := do
  let (inner, outer) := state
  match skip verbose text with
  | [] => .error .classUnclosed
  | '[' :: rest =>
    match readNamedClass? rest with
    | some (c, rest) => .ok (.more (inner.push c, outer), rest)
    | none =>
      let (opened, rest) ← readBracketStart verbose rest
      .ok (.more (opened, inner :: outer), rest)
  | ']' :: rest =>
    match outer with
    | [] => .ok (.done (.bracket inner.negated inner.set), rest)
    | around :: outer =>
      .ok (.more (around.push (.nested inner.negated inner.set), outer), rest)
  | text =>
    match readSetOp? text with
    | some (o, rest) =>
      .ok (.more ({ inner with items := [], pending := some (inner.set, o) }, outer), rest)
    | none =>
      let (item, rest) ← readBracketItem octal verbose text
      .ok (.more (inner.push item, outer), rest)

def readBracket (octal verbose : Bool) (text : List Char) : Except Fault (Tree × List Char) := do
  let (opened, rest) ← readBracketStart verbose text
  repeatStep (bracketStep octal verbose) (opened, []) rest

/-! ## Groups and repetitions -/

/-- Reads the letters of a change of flags up to the character that ends them. -/
def readFlags (e : FlagEdit) (negated dangling : Bool) :
    List Char → Except Fault ((FlagEdit × Char) × List Char)
  | [] => .error .flagsUnfinished
  | c :: rest =>
    if c = ':' || c = ')' then
      if dangling then .error .negationDangling else .ok ((e, c), rest)
    else if c = '-' then
      if negated then .error .negationRepeated else readFlags e true true rest
    else match e.add? c (!negated) with
      | some e => readFlags e negated false rest
      | none => .error .flagUnknownOrRepeated

def isNameChar (first : Bool) (c : Char) : Bool :=
  if first then c = '_' || Unicode.alphabetic.contains c.toNat
  else c = '_' || c = '.' || c = '[' || c = ']' || Unicode.alphanumeric.contains c.toNat

def readGroupName (seen : List Char) : List Char → Except Fault (List Char × List Char)
  | [] => .error .groupNameUnfinished
  | c :: rest =>
    if c = '>' then
      if seen.isEmpty then .error .groupNameEmpty else .ok (seen.reverse, rest)
    else if isNameChar seen.isEmpty c then readGroupName (c :: seen) rest
    else .error .groupNameInvalid

/-- What an opening parenthesis begins. -/
inductive Opening
  | group (kind : GroupKind) (name : Option (List Char))
  | flags (e : FlagEdit)

def readOpening (text : List Char) : Except Fault (Opening × List Char) := do
  match text with
  | '?' :: '=' :: _ | '?' :: '!' :: _ | '?' :: '<' :: '=' :: _ | '?' :: '<' :: '!' :: _ =>
    .error .lookAround
  | '?' :: 'P' :: '<' :: rest | '?' :: '<' :: rest =>
    let (name, rest) ← readGroupName [] rest
    .ok (.group .capture (some name), rest)
  | '?' :: rest =>
    if rest.isEmpty then .error .groupUnclosed
    else
      let ((e, stop), rest) ← readFlags {} false false rest
      if stop = ':' then .ok (.group (.flags e) none, rest)
      else if e = {} then .error .repetitionMissing
      else .ok (.flags e, rest)
  | text => .ok (.group .capture none, text)

def Tree.isRepeatable : Tree → Bool
  | .empty | .flags _ => false
  | _ => true

def readBounds (verbose : Bool) (text : List Char) :
    Except Fault ((Nat × Option Nat) × List Char) := do
  let close (bounds : Nat × Option Nat) : List Char → Except Fault ((Nat × Option Nat) × List Char)
    | '\x7d' :: rest => .ok (bounds, skip verbose rest)
    | _ => .error .countUnclosed
  let (least, rest) ← readCount verbose (skip verbose text)
  match rest with
  | ',' :: rest =>
    match skip verbose rest with
    | '\x7d' :: rest => .ok ((least, none), skip verbose rest)
    | rest => do
      let (most, rest) ← readCount verbose rest
      close (least, some most) rest
  | rest => close (least, some least) rest

def readGreed : List Char → Bool × List Char
  | '?' :: rest => (false, rest)
  | rest => (true, rest)

/-! ## The whole pattern -/

/-- A level of grouping that is being read: the branches before the current one and the items of
the current one, both with the latest first. -/
structure Level where
  branches : List Tree := []
  items : List Tree := []

def Level.tree (l : Level) : Tree :=
  Tree.ofBranches (Tree.ofItems l.items.reverse :: l.branches).reverse

/-- A group that is being read: its kind, the level around it, and whether whitespace was ignored
before it. -/
structure OpenGroup where
  kind : GroupKind
  around : Level
  verbose : Bool

/-- How far the reading of a pattern has come. -/
structure Reading where
  verbose : Bool
  level : Level := {}
  groups : List OpenGroup := []
  names : List (List Char) := []

namespace Reading

def push (r : Reading) (item : Tree) : Reading :=
  { r with level := { r.level with items := item :: r.level.items } }

def repeatLast (r : Reading) (min : Nat) (max : Option Nat) (greedy : Bool) :
    Except Fault Reading :=
  match r.level.items with
  | x :: items =>
    if x.isRepeatable then
      .ok { r with level := { r.level with items := .repetition x min max greedy :: items } }
    else .error .repetitionMissing
  | [] => .error .repetitionMissing

def canRepeat (r : Reading) : Bool :=
  match r.level.items with
  | x :: _ => x.isRepeatable
  | [] => false

end Reading

def Atom.toTree : Atom → Tree
  | .literal l => .literal l
  | .assertion a => .assertion a
  | .property p => .property p
  | .letter c negated => .letter c negated

def patternStep (octal : Bool) (r : Reading) (text : List Char) :
    Except Fault (Progress Reading Tree × List Char) := do
  match skip r.verbose text with
  | [] =>
    if r.groups.isEmpty then .ok (.done r.level.tree, []) else .error .groupUnclosed
  | '(' :: rest =>
    match ← readOpening (skip r.verbose rest) with
    | (.flags e, rest) =>
      let r := { r with verbose := e.ignoreWhitespace.getD r.verbose }
      .ok (.more (r.push (.flags e)), rest)
    | (.group kind name, rest) =>
      let verbose := match kind with
        | .flags e => e.ignoreWhitespace.getD r.verbose
        | .capture => r.verbose
      if name.any r.names.contains then .error .groupNameRepeated
      else
        .ok (.more {
          verbose
          groups := ⟨kind, r.level, r.verbose⟩ :: r.groups
          names := name.toList ++ r.names }, rest)
  | ')' :: rest =>
    match r.groups with
    | [] => .error .groupUnopened
    | g :: groups =>
      let r' := { r with verbose := g.verbose, level := g.around, groups }
      .ok (.more (r'.push (.group g.kind r.level.tree)), rest)
  | '|' :: rest =>
    let branch := Tree.ofItems r.level.items.reverse
    .ok (.more { r with level := ⟨branch :: r.level.branches, []⟩ }, rest)
  | '[' :: rest =>
    let (t, rest) ← readBracket octal r.verbose rest
    .ok (.more (r.push t), rest)
  | '?' :: rest =>
    let (greedy, rest) := readGreed rest
    .ok (.more (← r.repeatLast 0 (some 1) greedy), rest)
  | '*' :: rest =>
    let (greedy, rest) := readGreed rest
    .ok (.more (← r.repeatLast 0 none greedy), rest)
  | '+' :: rest =>
    let (greedy, rest) := readGreed rest
    .ok (.more (← r.repeatLast 1 none greedy), rest)
  | '\x7b' :: rest =>
    if !r.canRepeat then .error .repetitionMissing
    else
      let ((min, max), rest) ← readBounds r.verbose rest
      let (greedy, rest) := readGreed rest
      if max.all (min ≤ ·) then .ok (.more (← r.repeatLast min max greedy), rest)
      else .error .countInvalid
  | '\\' :: rest =>
    let (a, rest) ← readEscape octal r.verbose rest
    .ok (.more (r.push a.toTree), rest)
  | '.' :: rest => .ok (.more (r.push .dot), rest)
  | '^' :: rest => .ok (.more (r.push (.assertion .lineStart)), rest)
  | '$' :: rest => .ok (.more (r.push (.assertion .lineEnd)), rest)
  | c :: rest => .ok (.more (r.push (.literal ⟨c, false⟩)), rest)

def read (o : Options) (text : List Char) : Except Fault Tree := do
  let (t, _) ← repeatStep (patternStep o.octal) { verbose := o.ignoreWhitespace } text
  if t.depth .none ≤ o.nestLimit then .ok t else .error (.nestedTooDeep o.nestLimit)

end Multimatch.Pattern
