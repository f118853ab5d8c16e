/-!
The patterns of a set that match a haystack, as their indices in ascending order, and a cursor that
goes through them from both ends.
-/

namespace Multimatch

/-- The indices of the patterns that match, in ascending order. -/
structure Matches where
  indices : List Nat
  deriving DecidableEq, Repr

/--
Looks for a number in an ascending list by halving: the number in the middle tells in which half to
go on.
-/
def ascendingContains (n : Nat) (xs : List Nat) : Bool :=
  match h : xs.drop (xs.length / 2) with
  | [] => false
  | middle :: upper =>
    if n = middle then true
    else if n < middle then ascendingContains n (xs.take (xs.length / 2))
    else ascendingContains n upper
termination_by xs.length
decreasing_by
  all_goals
    have shorter := congrArg List.length h
    simp only [List.length_drop, List.length_cons, List.length_take] at shorter ⊢
    omega

/-- In an ascending list, halving finds a number exactly if it is there. -/
theorem ascendingContains_iff {n : Nat} {xs : List Nat} (ascending : xs.Pairwise (· < ·)) :
    ascendingContains n xs = true ↔ n ∈ xs := by
  fun_induction ascendingContains n xs with
  | case1 xs h =>
    have hlen : xs.length ≤ xs.length / 2 := List.drop_eq_nil_iff.1 h
    have hnil : xs = [] := List.eq_nil_of_length_eq_zero (by omega)
    simp [hnil]
  | case2 xs upper h =>
    have hmem : n ∈ xs := List.mem_of_mem_drop (h ▸ List.mem_cons_self)
    simp [hmem]
  | case3 xs middle upper h hne hlt ih =>
    rw [ih (ascending.sublist (List.take_sublist _ _))]
    refine ⟨List.mem_of_mem_take, fun hmem => ?_⟩
    rw [← List.take_append_drop (xs.length / 2) xs, h] at hmem ascending
    rcases List.mem_append.1 hmem with hleft | hright
    · exact hleft
    · rcases List.mem_cons.1 hright with rfl | hupper
      · exact absurd rfl hne
      · have := List.rel_of_pairwise_cons (List.pairwise_append.1 ascending).2.1 hupper
        omega
  | case4 xs middle upper h hne hge ih =>
    have hparts := ascending
    rw [← List.take_append_drop (xs.length / 2) xs, h] at hparts
    obtain ⟨_, hright, hacross⟩ := List.pairwise_append.1 hparts
    rw [ih hright.of_cons]
    refine ⟨fun hmem => List.mem_of_mem_drop (h ▸ List.mem_cons_of_mem _ hmem), fun hmem => ?_⟩
    rw [← List.take_append_drop (xs.length / 2) xs, h] at hmem
    rcases List.mem_append.1 hmem with hleft | hmem
    · have := hacross n hleft middle List.mem_cons_self
      omega
    · rcases List.mem_cons.1 hmem with rfl | hupper
      · exact absurd rfl hne
      · exact hupper

namespace Matches

def empty : Matches := ⟨[]⟩

instance : Inhabited Matches := ⟨empty⟩

def toList (m : Matches) : List Nat := m.indices

def size (m : Matches) : Nat := m.indices.length

def isEmpty (m : Matches) : Bool := m.indices.isEmpty

def matchedAny (m : Matches) : Bool := !m.indices.isEmpty

/-- Whether the pattern at an index matches. -/
def matched (m : Matches) (index : Nat) : Bool := ascendingContains index m.indices

/-- The text that shows the result. -/
def text (m : Matches) : String :=
  "SetMatches \x7b matches: [" ++ ", ".intercalate (m.indices.map toString) ++ "] \x7d"

end Matches

/-- What is still to come of a sequence of indices that is consumed from both ends. -/
structure Cursor where
  rest : List Nat
  deriving DecidableEq, Repr

/-- A cursor over all indices of a result. -/
def Matches.cursor (m : Matches) : Cursor := ⟨m.indices⟩

namespace Cursor

def size (c : Cursor) : Nat := c.rest.length

/-- The bounds on how many indices are still to come, which are exact. -/
def sizeBounds (c : Cursor) : Nat × Option Nat := (c.size, some c.size)

/-- Takes an index from the front. -/
def next (c : Cursor) : Option Nat × Cursor := (c.rest.head?, ⟨c.rest.tail⟩)

/-- Takes an index from the back. -/
def nextBack (c : Cursor) : Option Nat × Cursor := (c.rest.getLast?, ⟨c.rest.dropLast⟩)

/-- The indices that are still to come, from the front. -/
def toList (c : Cursor) : List Nat := c.rest

/-- The indices that are still to come, from the back. -/
def toListBack (c : Cursor) : List Nat := c.rest.reverse

end Cursor

end Multimatch
