import Multimatch.Interval
import Multimatch.Haystack.Look

/-!
Regular expressions over bytes, with assertions and with an order of preference: of alternatives the
first is preferred, a greedy repetition prefers to go on and a lazy one to stop. The functions here
say what can be told from the expression alone: whether it can match nothing, whether it only ever
matches nothing, whether its matches start at the start of the text.
-/

namespace Multimatch

/--
A regular expression. The labels tell its parts apart at a glance; they have no bearing on what it
matches.
-/
inductive Regex
  /-- The empty text. -/
  | empty
  /-- One scalar value of a set, in its encoding. -/
  | char (set : IntervalSet)
  /-- One byte of a set. -/
  | byte (set : IntervalSet)
  /-- Nothing, where the assertion holds. -/
  | look (l : Look)
  /-- One after the other. -/
  | cat (label : Nat) (x y : Regex)
  /-- One or, if that fails, the other. -/
  | alt (label : Nat) (x y : Regex)
  /-- At least `min` and at most `max` times in a row. -/
  | rep (label : Nat) (min : Nat) (max : Option Nat) (greedy : Bool) (x : Regex)
  deriving DecidableEq, Repr, Inhabited

namespace Regex

/-- A hash that goes by the labels, so that it costs the same for every expression. -/
instance : Hashable Regex where
  hash
    | empty => 11
    | char s => mixHash 13 (hash (s.intervals.head?))
    | byte s => mixHash 17 (hash (s.intervals.head?))
    | look l => mixHash 19 (hash l)
    | cat n _ _ => mixHash 23 (hash n)
    | alt n _ _ => mixHash 29 (hash n)
    | rep n min max _ _ => mixHash (mixHash 31 (hash n)) (mixHash (hash min) (hash max))

/-- Whether the expression can match the empty text, assertions taken to hold. -/
def nullable : Regex → Bool
  | empty | look _ => true
  | char _ | byte _ => false
  | cat _ x y => x.nullable && y.nullable
  | alt _ x y => x.nullable || y.nullable
  | rep _ min _ _ x => min = 0 || x.nullable

def zeroWidth : Regex → Bool
  | empty | look _ => true
  | char _ | byte _ => false
  | cat _ x y => x.zeroWidth && y.zeroWidth
  | alt _ x y => x.zeroWidth && y.zeroWidth
  | rep _ min max _ x => (min = 0 && max = some 0) || x.zeroWidth

/-- Whether every match starts at the start of the text, as the leading assertions show. -/
def anchored : Regex → Bool
  | look l => l == .textStart
  | empty | char _ | byte _ => false
  | cat _ x y => x.anchored || (x.zeroWidth && y.anchored)
  | alt _ x y => x.anchored && y.anchored
  | rep _ min _ _ x => 0 < min && x.anchored

def anyLook (p : Look → Bool) : Regex → Bool
  | look l => p l
  | empty | char _ | byte _ => false
  | cat _ x y | alt _ x y => x.anyLook p || y.anyLook p
  | rep _ _ _ _ x => x.anyLook p

def hasUnicodeWord (x : Regex) : Bool := x.anyLook Look.isUnicodeWord

/--
The repetition of an expression. Repeating what matches nothing but the empty text more than once
changes nothing, and repeating once or never needs no repetition.
-/
def ofRep (min : Nat) (max : Option Nat) (greedy : Bool) (x : Regex) : Regex :=
  let min' := if x.zeroWidth then Nat.min min 1 else min
  let max' := if x.zeroWidth then some (Nat.min (max.getD 1) 1) else max
  if min' = 0 && max' = some 0 then empty
  else if min' = 1 && max' = some 1 then x
  else rep 0 min' max' greedy x

/-- Gives the parts labels from `n` on; the number after the last one comes with the result. -/
def number (n : Nat) : Regex → Regex × Nat
  | cat _ x y =>
    let (x, m) := x.number (n + 1)
    let (y, m) := y.number m
    (cat n x y, m)
  | alt _ x y =>
    let (x, m) := x.number (n + 1)
    let (y, m) := y.number m
    (alt n x y, m)
  | rep _ min max greedy x =>
    let (x, m) := x.number (n + 1)
    (rep n min max greedy x, m)
  | x => (x, n)

end Regex

end Multimatch
