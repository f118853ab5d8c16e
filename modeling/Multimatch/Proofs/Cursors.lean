import Mathlib.Data.List.Induction
import Multimatch.PatternSet.Matches

/-!
# Cursors from both ends

A cursor gives out the indices of a result from the front and from the back until the two ends meet.
What it returned from the front, what is still to come and what it returned from the back are
together the result, whichever end is asked when. A copy goes on from where the original was, and
neither notices the other: cursors are put side by side on a desk, and what becomes of one of them
is settled by what is asked of it.
-/
namespace Multimatch.Cursor

/-- Where an index can be taken. -/
inductive End
  | front
  | back
  deriving DecidableEq, Repr

def take (c : Cursor) : End → Option Nat × Cursor
  | .front => c.next
  | .back => c.nextBack

/-! ## One index -/

theorem next_append (c : Cursor) : c.next.1.toList ++ c.next.2.toList = c.toList := by
  unfold next toList
  cases c.rest with
  | nil => rfl
  | cons i rest => rfl

theorem nextBack_append (c : Cursor) : c.nextBack.2.toList ++ c.nextBack.1.toList = c.toList := by
  unfold nextBack toList
  cases c.rest using List.reverseRecOn with
  | nil => rfl
  | append_singleton rest i =>
    dsimp only
    rw [List.dropLast_concat, List.getLast?_concat]
    rfl

/-- An end has nothing to return exactly if nothing is left. -/
theorem take_eq_none_iff (c : Cursor) (e : End) : (c.take e).1 = none ↔ c.size = 0 := by
  unfold size
  rw [List.length_eq_zero_iff]
  cases e with
  | front => exact List.head?_eq_none_iff
  | back => exact List.getLast?_eq_none_iff

/-- A cursor with nothing left stays so. -/
theorem size_take_of_size (c : Cursor) (e : End) (hsize : c.size = 0) : (c.take e).2.size = 0 := by
  have hnil : c.rest = [] := List.eq_nil_of_length_eq_zero hsize
  cases e with
  | front => rw [take, next, hnil]; rfl
  | back => rw [take, nextBack, hnil]; rfl

/-! ## One end -/

/-- What an end returns if it is asked until it has nothing to return. -/
inductive Yields (e : End) : Cursor → List Nat → Prop
  | done {c : Cursor} : (c.take e).1 = none → Yields e c []
  | item {c : Cursor} {i : Nat} {is : List Nat} :
    (c.take e).1 = some i → Yields e (c.take e).2 is → Yields e c (i :: is)

theorem Yields.unique {e : End} {c : Cursor} {is is' : List Nat} (hy : Yields e c is)
    (hy' : Yields e c is') : is = is' := by
  induction hy generalizing is' with
  | done hnone =>
    cases hy' with
    | done _ => rfl
    | item hsome _ => cases hnone.symm.trans hsome
  | item hsome _ ih =>
    cases hy' with
    | done hnone => cases hnone.symm.trans hsome
    | item hsome' hrest =>
      obtain rfl := Option.some.inj (hsome.symm.trans hsome')
      rw [ih hrest]

theorem yields_front (c : Cursor) : Yields .front c c.toList := by
  obtain ⟨rest⟩ := c
  induction rest with
  | nil => exact .done rfl
  | cons i rest ih => exact .item rfl ih

theorem yields_back (c : Cursor) : Yields .back c c.toListBack := by
  obtain ⟨rest⟩ := c
  unfold toListBack
  induction rest using List.reverseRecOn with
  | nil => exact .done rfl
  | append_singleton rest i ih =>
    rw [List.reverse_concat]
    refine .item List.getLast?_concat ?_
    rw [take, nextBack, List.dropLast_concat]
    exact ih

/-! ## A run at both ends -/

/-- A cursor, with what it returned from the front and from the back so far. -/
structure Journey where
  cursor : Cursor
  front : List Nat
  back : List Nat
  deriving DecidableEq, Repr

namespace Journey

def take (j : Journey) : End → Journey
  | .front => ⟨j.cursor.next.2, j.front ++ j.cursor.next.1.toList, j.back⟩
  | .back => ⟨j.cursor.nextBack.2, j.front, j.back ++ j.cursor.nextBack.1.toList⟩

def takes (j : Journey) : List End → Journey
  | [] => j
  | e :: es => (j.take e).takes es

def whole (j : Journey) : List Nat := j.front ++ j.cursor.toList ++ j.back.reverse

theorem cursor_take (j : Journey) (e : End) : (j.take e).cursor = (j.cursor.take e).2 := by
  cases e <;> rfl

/-- An index that is taken is neither lost nor moved. -/
theorem whole_take (j : Journey) (e : End) : (j.take e).whole = j.whole := by
  cases e with
  | front =>
    have hnext := j.cursor.next_append
    change j.front ++ j.cursor.next.1.toList ++ j.cursor.next.2.toList ++ j.back.reverse = _
    rw [List.append_assoc j.front, hnext]
    rfl
  | back =>
    have hback := j.cursor.nextBack_append
    have hreverse : j.cursor.nextBack.1.toList.reverse = j.cursor.nextBack.1.toList := by
      cases j.cursor.nextBack.1 <;> rfl
    change j.front ++ j.cursor.nextBack.2.toList ++
      (j.back ++ j.cursor.nextBack.1.toList).reverse = _
    rw [List.reverse_append, hreverse, ← List.append_assoc, List.append_assoc j.front, hback]
    rfl

theorem whole_takes (j : Journey) (es : List End) : (j.takes es).whole = j.whole := by
  induction es generalizing j with
  | nil => rfl
  | cons e es ih => rw [takes, ih, whole_take]

theorem size_takes_of_size (j : Journey) (hsize : j.cursor.size = 0) (es : List End) :
    (j.takes es).cursor.size = 0 := by
  induction es generalizing j with
  | nil => exact hsize
  | cons e es ih =>
    apply ih
    rw [cursor_take]
    exact size_take_of_size _ e hsize

end Journey

/-! ## Cursors side by side -/

/-- Something that is asked of the cursor at a place: an index from an end, or a copy. -/
inductive Move
  | take (place : Nat) (e : End)
  | copy (place : Nat)
  deriving DecidableEq, Repr

/-- Cursors side by side, each known by its place. -/
structure Desk where
  journeys : List Journey
  deriving DecidableEq, Repr

namespace Desk

variable {d : Desk} {i : Nat} {j : Journey}

/-- The desk after a move; a copy is put at the end, with the past of the original. -/
def step (d : Desk) : Move → Desk
  | .take place e => ⟨d.journeys.modify place (·.take e)⟩
  | .copy place => ⟨d.journeys ++ d.journeys[place]?.toList⟩

def run (d : Desk) : List Move → Desk
  | [] => d
  | m :: ms => (d.step m).run ms

def endsAt (i : Nat) : List Move → List End
  | [] => []
  | .take place e :: ms => if place = i then e :: endsAt i ms else endsAt i ms
  | .copy _ :: ms => endsAt i ms

theorem step_take (hi : d.journeys[i]? = some j) (e : End) :
    (d.step (.take i e)).journeys[i]? = some (j.take e) := by
  rw [step, List.getElem?_modify_eq, hi]
  rfl

theorem step_elsewhere {place : Nat} (hplace : place ≠ i) (e : End) :
    (d.step (.take place e)).journeys[i]? = d.journeys[i]? :=
  List.getElem?_modify_ne _ _ hplace

/-- A copy changes no cursor, and is where the original is. -/
theorem step_copy (hi : d.journeys[i]? = some j) (place : Nat) :
    (d.step (.copy place)).journeys[i]? = some j ∧
      (d.step (.copy i)).journeys[d.journeys.length]? = some j := by
  have hlt := (List.getElem?_eq_some_iff.1 hi).1
  constructor
  · rw [step, List.getElem?_append_left hlt, hi]
  · rw [step, hi]
    exact List.getElem?_concat_length

/-- What becomes of a cursor is settled by the ends that are asked at its place. -/
theorem run_at (hi : d.journeys[i]? = some j) (ms : List Move) :
    (d.run ms).journeys[i]? = some (j.takes (endsAt i ms)) := by
  induction ms generalizing d j with
  | nil => exact hi
  | cons m ms ih =>
    cases m with
    | take place e =>
      rw [run, endsAt]
      by_cases hplace : place = i
      · subst hplace
        rw [if_pos rfl]
        exact ih (step_take hi e)
      · rw [if_neg hplace]
        exact ih ((step_elsewhere hplace e).trans hi)
    | copy place => exact ih (step_copy hi place).1

/-- After a move, a cursor on the desk was there before, or has just been asked. -/
theorem mem_step {m : Move} (hj : j ∈ (d.step m).journeys) :
    ∃ j' ∈ d.journeys, j = j' ∨ ∃ e, j = j'.take e := by
  cases m with
  | take place e =>
    obtain ⟨i, hi⟩ := List.mem_iff_getElem?.1 hj
    by_cases hplace : place = i
    · rw [step, hplace, List.getElem?_modify_eq] at hi
      obtain ⟨j', hj', rfl⟩ := Option.map_eq_some_iff.1 hi
      exact ⟨j', List.mem_of_getElem? hj', .inr ⟨e, rfl⟩⟩
    · rw [step_elsewhere hplace] at hi
      exact ⟨j, List.mem_of_getElem? hi, .inl rfl⟩
  | copy place =>
    rcases List.mem_append.1 hj with hold | hnew
    · exact ⟨j, hold, .inl rfl⟩
    · exact ⟨j, List.mem_of_getElem? (Option.mem_toList.1 hnew), .inl rfl⟩

/-- Every cursor on a desk is one of the first ones, once some ends were asked. -/
theorem mem_run {ms : List Move} (hj : j ∈ (d.run ms).journeys) :
    ∃ j' ∈ d.journeys, ∃ es, j = j'.takes es := by
  induction ms generalizing d with
  | nil => exact ⟨j, hj, [], rfl⟩
  | cons m ms ih =>
    obtain ⟨j', hj', es, rfl⟩ := ih hj
    obtain ⟨first, hfirst, rfl | ⟨e, rfl⟩⟩ := mem_step hj'
    · exact ⟨j', hfirst, es, rfl⟩
    · exact ⟨first, hfirst, e :: es, rfl⟩

end Desk

/-! ## Cursors over a result -/

/-- Some indices are what a cursor over a result has still to return, from either end. -/
structure Journey.Awaits (j : Journey) (m : Matches) (is : List Nat) : Prop where
  yields_front : Yields .front j.cursor is
  yields_back : Yields .back j.cursor is.reverse
  whole_eq : j.front ++ is ++ j.back.reverse = m.toList
  size_eq : j.cursor.size = is.length
  sizeBounds_eq : j.cursor.sizeBounds = (is.length, some is.length)
  exhausted : is = [] → ∀ es e, ((j.takes es).cursor.take e).1 = none

def desk (m : Matches) : Desk := ⟨[⟨m.cursor, [], []⟩]⟩

theorem awaits_of_whole {j : Journey} {m : Matches} (hwhole : j.whole = m.toList) :
    j.Awaits m j.cursor.toList where
  yields_front := j.cursor.yields_front
  yields_back := j.cursor.yields_back
  whole_eq := hwhole
  size_eq := rfl
  sizeBounds_eq := rfl
  exhausted hnil es e := by
    have hsize : j.cursor.size = 0 := List.length_eq_zero_iff.2 hnil
    rw [take_eq_none_iff]
    exact j.size_takes_of_size hsize es

/-- Whatever is asked of cursors over a result, indices are returned from the front in order and
from the back in reverse order, none twice and none left out, with exact sizes at every time; a
cursor with nothing left returns nothing for ever. A copy and its original go on alike, each as it
is asked itself. Asked at one end only, a cursor goes through the result, from the front or from the
back. -/
theorem goes_through_result (m : Matches) (ms : List Move) :
    (∀ j ∈ ((desk m).run ms).journeys, ∃ is, j.Awaits m is) ∧
      (∀ i j, ((desk m).run ms).journeys[i]? = some j → ∀ ms',
        ((((desk m).run ms).step (.copy i)).run ms').journeys[i]? =
            some (j.takes (Desk.endsAt i ms')) ∧
          ((((desk m).run ms).step (.copy i)).run ms').journeys[
              ((desk m).run ms).journeys.length]? =
            some (j.takes (Desk.endsAt ((desk m).run ms).journeys.length ms'))) ∧
      ∀ is, (Yields .front m.cursor is ↔ is = m.toList) ∧
        (Yields .back m.cursor is ↔ is = m.toList.reverse) := by
  refine ⟨?_, ?_, ?_⟩
  · intro j hj
    obtain ⟨first, hfirst, es, rfl⟩ := Desk.mem_run hj
    obtain rfl := List.mem_singleton.1 hfirst
    refine ⟨_, awaits_of_whole ?_⟩
    rw [Journey.whole_takes]
    exact List.append_nil m.toList
  · intro i j hi ms'
    obtain ⟨hold, hnew⟩ := Desk.step_copy hi i
    exact ⟨Desk.run_at hold ms', Desk.run_at hnew ms'⟩
  · intro is
    constructor
    · constructor
      · exact fun hy => hy.unique m.cursor.yields_front
      · rintro rfl
        exact m.cursor.yields_front
    · constructor
      · exact fun hy => hy.unique m.cursor.yields_back
      · rintro rfl
        exact m.cursor.yields_back

/-- The copy is asked at the back, the original at the front, and both have one index left. -/
example :
    ((desk ⟨[1, 3, 7]⟩).run
        [.take 0 .front, .copy 0, .take 1 .back, .take 0 .front]).journeys =
      [⟨⟨[7]⟩, [1, 3], []⟩, ⟨⟨[3]⟩, [1], [7]⟩] := by
  decide

end Multimatch.Cursor
