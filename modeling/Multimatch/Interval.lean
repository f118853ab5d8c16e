/-!
Sets of numbers written as lists of intervals. They serve for sets of scalar values and for sets of
bytes alike; what differs is the alphabet in which a complement is taken. The one view of a set is
membership: `contains` and `meets` say all that matching asks of it.
-/

namespace Multimatch

/-- A stretch of numbers, both ends included. -/
structure Interval where
  lo : Nat
  hi : Nat
  deriving DecidableEq, Repr, Inhabited, Hashable

namespace Interval

/-- The interval between two numbers, whichever is the smaller. -/
def between (a b : Nat) : Interval := ⟨min a b, max a b⟩

def contains (i : Interval) (n : Nat) : Bool := i.lo ≤ n && n ≤ i.hi

/-- Whether the interval shares a number with the stretch from `lo` to `hi`. -/
def meets (i : Interval) (lo hi : Nat) : Bool := max i.lo lo ≤ min i.hi hi

/-- The common part of two intervals, if they have one. -/
def inter? (i j : Interval) : Option Interval :=
  if max i.lo j.lo ≤ min i.hi j.hi then some ⟨max i.lo j.lo, min i.hi j.hi⟩ else none

/-- Whether the interval goes before another in an ordered list: by its lower end, then by the
upper one. -/
def precedes (i j : Interval) : Bool := i.lo < j.lo || (i.lo = j.lo && i.hi ≤ j.hi)

theorem precedes_trans (i j k : Interval) (hij : i.precedes j = true) (hjk : j.precedes k = true) :
    i.precedes k = true := by
  simp only [precedes, Bool.or_eq_true, Bool.and_eq_true, decide_eq_true_eq] at *
  omega

theorem precedes_total (i j : Interval) : (i.precedes j || j.precedes i) = true := by
  simp only [precedes, Bool.or_eq_true, Bool.and_eq_true, decide_eq_true_eq]
  omega

theorem lo_le_of_precedes {i j : Interval} (h : i.precedes j = true) : i.lo ≤ j.lo := by
  simp only [precedes, Bool.or_eq_true, Bool.and_eq_true, decide_eq_true_eq] at h
  omega

def size (i : Interval) : Nat := i.hi + 1 - i.lo

end Interval

/--
The numbers a complement is taken in: the largest one, and the number after and before each. The
two step functions skip numbers that stand for nothing.
-/
structure Alphabet where
  last : Nat
  next : Nat → Nat
  previous : Nat → Nat

namespace Alphabet

def bytes : Alphabet := ⟨0xFF, (· + 1), (· - 1)⟩

/-- The Unicode scalar values, which leave out the surrogates. -/
def scalars : Alphabet where
  last := 0x10FFFF
  next c := if c = 0xD7FF then 0xE000 else c + 1
  previous c := if c = 0xE000 then 0xD7FF else c - 1

end Alphabet

/-- A set of numbers as a list of intervals, in ascending order once it went through `ofList`. -/
structure IntervalSet where
  intervals : List Interval
  deriving DecidableEq, Repr, Inhabited, Hashable

namespace IntervalSet

def empty : IntervalSet := ⟨[]⟩

def isEmpty (s : IntervalSet) : Bool := s.intervals.isEmpty

def contains (s : IntervalSet) (n : Nat) : Bool := s.intervals.any (·.contains n)

/-- Whether the set has a number from `lo` to `hi`. -/
def meets (s : IntervalSet) (lo hi : Nat) : Bool := s.intervals.any (·.meets lo hi)

/-- Joins neighbours that overlap or touch, in a list that ascends by lower ends. -/
def join : List Interval → List Interval
  | a :: b :: rest =>
    if b.lo ≤ a.hi + 1 then join (⟨a.lo, max a.hi b.hi⟩ :: rest) else a :: join (b :: rest)
  | [a] => [a]
  | [] => []
termination_by l => l.length

/-- The set of all numbers in the given intervals. -/
def ofList (l : List Interval) : IntervalSet := ⟨join (l.mergeSort Interval.precedes)⟩

def singleton (n : Nat) : IntervalSet := ⟨[⟨n, n⟩]⟩

def union (s t : IntervalSet) : IntervalSet := ofList (s.intervals ++ t.intervals)

def inter (s t : IntervalSet) : IntervalSet :=
  ofList (s.intervals.flatMap fun i => t.intervals.filterMap i.inter?)

/-- What is left of an interval without the numbers of another, in an alphabet. -/
def cut (alphabet : Alphabet) (j i : Interval) : List Interval :=
  if (i.inter? j).isNone then [i]
  else
    (if i.lo < j.lo then [Interval.between i.lo (alphabet.previous j.lo)] else []) ++
    (if j.hi < i.hi then [Interval.between (alphabet.next j.hi) i.hi] else [])

/-- The numbers in the first set and not in the second. -/
def difference (s t : IntervalSet) (alphabet : Alphabet := .scalars) : IntervalSet :=
  ofList (t.intervals.foldl (fun l j => l.flatMap (cut alphabet j)) s.intervals)

/-- The numbers in exactly one of the two sets. -/
def symmetricDifference (s t : IntervalSet) (alphabet : Alphabet := .scalars) : IntervalSet :=
  (s.union t).difference (s.inter t) alphabet

/-- The gaps after a number `hi` of the set, before, between and after the intervals that follow. -/
def gapsAfter (alphabet : Alphabet) (hi : Nat) : List Interval → List Interval
  | [] => if hi < alphabet.last then [Interval.between (alphabet.next hi) alphabet.last] else []
  | i :: rest =>
    Interval.between (alphabet.next hi) (alphabet.previous i.lo) :: gapsAfter alphabet i.hi rest

/--
The numbers of the alphabet outside the set, which is in order. Each gap runs from the number after
an interval to the number before the next one; its ends are put in order, so that a gap in which
the alphabet has no number keeps the two around it.
-/
def complement (s : IntervalSet) (alphabet : Alphabet := .scalars) : IntervalSet :=
  match s.intervals with
  | [] => ⟨[⟨0, alphabet.last⟩]⟩
  | i :: rest =>
    ⟨(if 0 < i.lo then [⟨0, alphabet.previous i.lo⟩] else []) ++ gapsAfter alphabet i.hi rest⟩

/-! ## Membership -/

theorem contains_join {l : List Interval} (ascending : l.Pairwise (·.lo ≤ ·.lo)) (n : Nat) :
    (join l).any (·.contains n) = l.any (·.contains n) := by
  fun_induction join l with
  | case1 a b rest hle ih =>
    obtain ⟨hfirst, hrest⟩ := List.pairwise_cons.1 ascending
    obtain ⟨hsecond, htail⟩ := List.pairwise_cons.1 hrest
    have hab := hfirst b List.mem_cons_self
    rw [ih (.cons (fun c hc => Nat.le_trans hab (hsecond c hc)) htail)]
    simp only [List.any_cons, ← Bool.or_assoc]
    congr 1
    rw [Bool.eq_iff_iff]
    simp only [Interval.contains, Bool.or_eq_true, Bool.and_eq_true, decide_eq_true_eq]
    omega
  | case2 a b rest hgt ih =>
    rw [List.any_cons, ih ascending.of_cons]
    rfl
  | case3 => rfl
  | case4 => rfl

/-- Putting intervals in order changes nothing about membership. -/
theorem contains_ofList (l : List Interval) (n : Nat) :
    (ofList l).contains n = l.any (·.contains n) := by
  have hsorted := List.pairwise_mergeSort Interval.precedes_trans Interval.precedes_total l
  have hjoin := contains_join (hsorted.imp Interval.lo_le_of_precedes) n
  refine hjoin.trans ?_
  rw [Bool.eq_iff_iff]
  simp only [List.any_eq_true, List.mem_mergeSort]

theorem Interval.meets_iff {i : Interval} {lo hi : Nat} :
    i.meets lo hi = true ↔ ∃ n, i.contains n = true ∧ lo ≤ n ∧ n ≤ hi := by
  simp only [Interval.meets, Interval.contains, Bool.and_eq_true, decide_eq_true_eq]
  constructor
  · intro h
    exact ⟨max i.lo lo, by omega⟩
  · rintro ⟨n, h⟩
    omega

theorem meets_iff {s : IntervalSet} {lo hi : Nat} :
    s.meets lo hi = true ↔ ∃ n, s.contains n = true ∧ lo ≤ n ∧ n ≤ hi := by
  simp only [meets, contains, List.any_eq_true, Interval.meets_iff]
  constructor
  · rintro ⟨i, hi, n, hn, hbounds⟩
    exact ⟨n, ⟨i, hi, hn⟩, hbounds⟩
  · rintro ⟨n, ⟨i, hi, hn⟩, hbounds⟩
    exact ⟨i, hi, n, hn, hbounds⟩

def size (s : IntervalSet) : Nat := s.intervals.foldr (fun i n => i.size + n) 0

/-- The only member, if there is one alone. -/
def single? (s : IntervalSet) : Option Nat :=
  match s.intervals with
  | [i] => if i.lo = i.hi then some i.lo else none
  | _ => none

def isAscii (s : IntervalSet) : Bool := s.intervals.all (·.hi ≤ 0x7F)

end IntervalSet

end Multimatch
