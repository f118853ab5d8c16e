import Multimatch.Interval

/-!
How the tables of this folder are written: blank-separated words, each a scalar value or a range of
them in hexadecimal, with a label after an equals sign where the table tells several values apart.
Alias tables hold a line of names per entry.
-/

namespace Multimatch.Unicode

def hexDigitValue (c : Char) : Nat :=
  if '0' ≤ c && c ≤ '9' then c.toNat - '0'.toNat
  else if 'a' ≤ c && c ≤ 'f' then c.toNat - 'a'.toNat + 10
  else if 'A' ≤ c && c ≤ 'F' then c.toNat - 'A'.toNat + 10
  else 0

def hexNumber (digits : List Char) : Nat :=
  digits.foldl (fun n c => 16 * n + hexDigitValue c) 0

/-- The pieces of a text between separators, empty pieces left out. -/
def pieces (isSeparator : Char → Bool) (text : List Char) : List (List Char) :=
  let (piece, found) := text.foldr
    (fun c (piece, found) =>
      if isSeparator c then ([], if piece.isEmpty then found else piece :: found)
      else (c :: piece, found))
    ([], [])
  if piece.isEmpty then found else piece :: found

/-- Reads `lo-hi`, or `lo` for a range of one. -/
def readInterval (word : List Char) : Interval :=
  match word.span (· != '-') with
  | (lo, _ :: hi) => ⟨hexNumber lo, hexNumber hi⟩
  | (lo, []) => ⟨hexNumber lo, hexNumber lo⟩

/-- A range of scalar values and the label they share. -/
structure Row where
  interval : Interval
  label : String

def Row.read (text : String) : List Row :=
  (pieces Char.isWhitespace text.toList).map fun word =>
    let (range, label) := word.span (· != '=')
    ⟨readInterval range, String.ofList (label.drop 1)⟩

/-- The values of the rows with a label, unless there are none. -/
def Row.select? (rows : List Row) (label : String) : Option IntervalSet :=
  match rows.filter (·.label == label) with
  | [] => none
  | found => some (IntervalSet.ofList (found.map Row.interval))

/-- The names of one entry: the code it is looked up by, and others. -/
structure Names where
  code : String
  others : List String

def Names.has (n : Names) (name : String) : Bool := n.code == name || n.others.contains name

def Names.words (text : String) : List (List Char) := pieces Char.isWhitespace text.toList

def Names.read (text : String) : List Names :=
  (pieces (· == '\n') text.toList).filterMap fun line =>
    match (pieces (· == ' ') line).map String.ofList with
    | [] => none
    | code :: others => some ⟨code, others⟩

def Names.code? (table : List Names) (name : String) : Option String :=
  (table.find? (·.has name)).map Names.code

end Multimatch.Unicode

namespace Multimatch

def IntervalSet.read (text : String) : IntervalSet :=
  ⟨(Unicode.pieces Char.isWhitespace text.toList).map Unicode.readInterval⟩

end Multimatch
