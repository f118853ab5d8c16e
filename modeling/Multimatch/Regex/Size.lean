import Multimatch.Regex.Basic

/-!
How large an automaton for an expression is, in bytes. The measure is that of an automaton that
reads the haystack backwards: a set of characters is spelled out in all the byte sequences of its
members, and those that begin alike share their beginning.
-/

namespace Multimatch.Regex

/--
The numbers from `lo` to `hi`, written with `k` digits in base 64, as few products of digit ranges
as possible.
-/
def digitProducts : Nat → Nat → Nat → List (List Interval)
  | 0, _, _ => [[]]
  | k + 1, lo, hi =>
    let unit := Nat.pow 64 k
    let (a, b) := (lo / unit, hi / unit)
    if a = b then (digitProducts k (lo % unit) (hi % unit)).map (⟨a, a⟩ :: ·)
    else
      let lowEnd := lo % unit = 0
      let highEnd := hi % unit = unit - 1
      let first := if lowEnd then [] else
        (digitProducts k (lo % unit) (unit - 1)).map (⟨a, a⟩ :: ·)
      let last := if highEnd then [] else (digitProducts k 0 (hi % unit)).map (⟨b, b⟩ :: ·)
      let (a, b) := (if lowEnd then a else a + 1, if highEnd then b else b - 1)
      let middle := if a ≤ b then (digitProducts k 0 (unit - 1)).map (⟨a, b⟩ :: ·) else []
      first ++ middle ++ last

/-- The least and greatest values with an encoding of each length, the surrogates left out. -/
def encodingLengths : List (Nat × Interval) :=
  [(1, ⟨0, 0x7F⟩), (2, ⟨0x80, 0x7FF⟩), (3, ⟨0x800, 0xD7FF⟩), (3, ⟨0xE000, 0xFFFF⟩),
    (4, ⟨0x10000, 0x10FFFF⟩)]

/-- The encodings of a set of characters as products of byte ranges. -/
def byteProducts (s : IntervalSet) : List (List Interval) :=
  s.intervals.flatMap fun i =>
    encodingLengths.flatMap fun (length, j) =>
      match i.inter? j with
      | none => []
      | some i => if length = 1 then [[i]] else digitProducts length i.lo i.hi

def commonLength : List Interval → List Interval → Nat
  | x :: xs, y :: ys => if x = y then commonLength xs ys + 1 else 0
  | _, _ => 0

/-- How many states spell out the products, each sharing its beginning with the one before it. -/
def spellingStates (before : List Interval) : List (List Interval) → Nat
  | [] => 0
  | p :: rest => p.length - commonLength before p + spellingStates p rest

/-- The memory of a state without its transitions. -/
def stateSize : Nat := 32

/-- The memory of a transition on a range of bytes. -/
def rangeSize : Nat := 8

/-- The memory of a way out of a state that splits. -/
def wayOutSize : Nat := 4

/-- The memory of a state with a transition for each of a number of ranges, and the state after. -/
def rangesSize (ranges : Nat) : Nat := 2 * stateSize + ranges * rangeSize

def size : Regex → Nat
  | empty | look _ => stateSize
  | char s =>
    match s.single? with
    | some c => (Utf8.encode c).length * stateSize
    | none =>
      if s.isAscii then rangesSize s.intervals.length
      else
        let products := byteProducts s
        (spellingStates [] products + 2) * stateSize + products.length * wayOutSize
  | byte s => if s.single?.isSome then stateSize else rangesSize s.intervals.length
  | cat _ x y => x.size + y.size
  | alt _ x y => x.size + y.size + stateSize + 2 * wayOutSize
  | rep _ min max _ x =>
    let split := stateSize + 2 * wayOutSize
    match max with
    | none => Nat.max min 1 * x.size + split
    | some max => min * x.size + (max - min) * (x.size + split) + stateSize

end Multimatch.Regex
