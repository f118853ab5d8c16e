/-!
The buffer in which a combined matcher leaves the indices of the patterns that match. Its capacity
never changes; its one view is `toList`, the indices it holds in ascending order.
-/

namespace Multimatch

/-- A set of indices below a fixed capacity. -/
structure Candidates where
  marks : List Bool
  deriving DecidableEq, Repr

namespace Candidates

def new (capacity : Nat) : Candidates := ⟨List.replicate capacity false⟩

def capacity (c : Candidates) : Nat := c.marks.length

def clear (c : Candidates) : Candidates := new c.capacity

/-- Puts in an index. One beyond the capacity would be out of bounds; here it is passed over. -/
def insert (c : Candidates) (i : Nat) : Candidates := ⟨c.marks.set i true⟩

def insertAll (c : Candidates) (is : List Nat) : Candidates := is.foldl insert c

/-- Whether every index below the capacity is in. -/
def isFull (c : Candidates) : Bool := !c.marks.contains false

/-- The positions of the marks, counted from `n`. -/
def markedFrom (n : Nat) : List Bool → List Nat
  | [] => []
  | true :: rest => n :: markedFrom (n + 1) rest
  | false :: rest => markedFrom (n + 1) rest

def toList (c : Candidates) : List Nat := markedFrom 0 c.marks

/-! ## What each operation does to the view -/

@[simp] theorem capacity_new (capacity : Nat) : (new capacity).capacity = capacity := by
  simp [new, Candidates.capacity]

@[simp] theorem capacity_insert (c : Candidates) (i : Nat) :
    (c.insert i).capacity = c.capacity := by
  simp [insert, capacity]

@[simp] theorem capacity_insertAll (c : Candidates) (is : List Nat) :
    (c.insertAll is).capacity = c.capacity := by
  induction is generalizing c with
  | nil => rfl
  | cons i is ih => exact (ih (c.insert i)).trans (c.capacity_insert i)

theorem mem_markedFrom {n i : Nat} {marks : List Bool} :
    i ∈ markedFrom n marks ↔ n ≤ i ∧ marks[i - n]? = some true := by
  induction marks generalizing n with
  | nil => simp [markedFrom]
  | cons mark marks ih =>
    have hstep : n + 1 ≤ i → i - n = (i - (n + 1)) + 1 := by omega
    by_cases hi : i = n
    · subst hi
      have hlt : ¬ i + 1 ≤ i := by omega
      cases mark <;> simp [markedFrom, ih, hlt]
    · by_cases hn : n + 1 ≤ i
      · have hle : n ≤ i := by omega
        cases mark <;> simp [markedFrom, ih, hi, hn, hle, hstep hn]
      · have hlt : ¬ n ≤ i := by omega
        cases mark <;> simp [markedFrom, ih, hi, hn, hlt]

/-- An index is in the buffer if its mark is set. -/
theorem mem_toList {c : Candidates} {i : Nat} : i ∈ c.toList ↔ c.marks[i]? = some true := by
  simp [toList, mem_markedFrom]

/-- Every index in the buffer is below the capacity. -/
theorem lt_capacity_of_mem {c : Candidates} {i : Nat} (h : i ∈ c.toList) : i < c.capacity := by
  rw [mem_toList] at h
  exact (List.getElem?_eq_some_iff.1 h).1

@[simp] theorem toList_new (capacity : Nat) : (new capacity).toList = [] := by
  rw [List.eq_nil_iff_forall_not_mem]
  intro i hi
  rw [mem_toList] at hi
  simp [new, List.getElem?_replicate] at hi

/-- Inserting puts in one index if it is below the capacity, and takes none out. -/
theorem mem_toList_insert {c : Candidates} {i j : Nat} :
    j ∈ (c.insert i).toList ↔ (j = i ∧ i < c.capacity) ∨ j ∈ c.toList := by
  simp only [mem_toList, insert, capacity, List.getElem?_set]
  by_cases hij : i = j
  · subst hij
    by_cases hi : i < c.marks.length
    · simp [hi]
    · simp [hi]
  · have hji : ¬ j = i := fun h => hij h.symm
    simp [hij, hji]

/-- Inserting several puts in those below the capacity. -/
theorem mem_toList_insertAll {c : Candidates} {is : List Nat} {j : Nat} :
    j ∈ (c.insertAll is).toList ↔ (j ∈ is ∧ j < c.capacity) ∨ j ∈ c.toList := by
  induction is generalizing c with
  | nil => simp [insertAll]
  | cons i is ih =>
    have hfold : c.insertAll (i :: is) = (c.insert i).insertAll is := rfl
    rw [hfold, ih, mem_toList_insert, capacity_insert, List.mem_cons]
    constructor
    · rintro (⟨hmem, hlt⟩ | ⟨rfl, hlt⟩ | hmem)
      · exact .inl ⟨.inr hmem, hlt⟩
      · exact .inl ⟨.inl rfl, hlt⟩
      · exact .inr hmem
    · rintro (⟨rfl | hmem, hlt⟩ | hmem)
      · exact .inr (.inl ⟨rfl, hlt⟩)
      · exact .inl ⟨hmem, hlt⟩
      · exact .inr (.inr hmem)

theorem pairwise_markedFrom (n : Nat) (marks : List Bool) :
    (markedFrom n marks).Pairwise (· < ·) := by
  induction marks generalizing n with
  | nil => exact .nil
  | cons mark marks ih =>
    cases mark with
    | false => exact ih (n + 1)
    | true =>
      refine .cons ?_ (ih (n + 1))
      intro i hi
      exact (mem_markedFrom.1 hi).1

/-- The indices ascend, and none occurs twice. -/
theorem pairwise_toList (c : Candidates) : c.toList.Pairwise (· < ·) :=
  pairwise_markedFrom 0 c.marks

theorem length_markedFrom_le (n : Nat) (marks : List Bool) :
    (markedFrom n marks).length ≤ marks.length := by
  induction marks generalizing n with
  | nil => exact Nat.le_refl 0
  | cons mark marks ih =>
    have hrest := ih (n + 1)
    cases mark with
    | false => exact Nat.le_succ_of_le hrest
    | true => exact Nat.succ_le_succ hrest

/-- A buffer holds no more indices than its capacity. -/
theorem length_toList_le (c : Candidates) : c.toList.length ≤ c.capacity :=
  length_markedFrom_le 0 c.marks

/-- A buffer is full if it holds every index below its capacity. -/
theorem isFull_iff {c : Candidates} : c.isFull = true ↔ ∀ i, i < c.capacity → i ∈ c.toList := by
  simp only [isFull, Bool.not_eq_true', List.contains_eq_mem, decide_eq_false_iff_not, mem_toList,
    capacity]
  constructor
  · intro hfull i hi
    rw [List.getElem?_eq_getElem hi]
    cases hmark : c.marks[i] with
    | true => rfl
    | false => exact absurd (hmark ▸ List.getElem_mem hi) hfull
  · intro hall hmark
    obtain ⟨i, hi, hfalse⟩ := List.getElem_of_mem hmark
    have htrue := hall i hi
    rw [List.getElem?_eq_getElem hi, hfalse] at htrue
    cases htrue

end Candidates

end Multimatch
