import Multimatch.Regex.Basic
import Std.Data.HashSet

/-!
The state of a search in one expression. A thread is a stack of what it still has to match, with
the offset it started at; the threads of a search are kept in order of preference. `settle` takes
threads at a place as far as they go without a byte, `Stack.feed` takes a settled one over a byte.

A round of a loop that takes no byte gets nowhere. After the round a loop was entered with, the
thread leaves the loop; after a later round it ends, as the thread that began the round leaves the
loop at the same place. So settling a thread ends, and what a stack costs to settle is bounded by
`Stack.cost`.
-/

namespace Multimatch.Search

/-- Where a thread is with a loop that it is in. -/
inductive Round
  /-- In the round it was entered with, without a byte so far. -/
  | entry
  /-- In a later round, without a byte so far in it. -/
  | idle
  /-- In a round in which a byte was taken. -/
  | busy
  deriving DecidableEq, Repr

/-- One thing a thread still has to match. -/
inductive Frame
  /-- An expression. -/
  | part (r : Regex)
  /-- Further rounds of an expression. -/
  | loop (round : Round) (label : Nat) (greedy : Bool) (x : Regex)
  /-- The rest of a character's encoding; the character is to be in the set. -/
  | rest (set : IntervalSet) (p : Utf8.Partial)
  deriving DecidableEq, Repr

/-- A hash that goes by labels. -/
instance : Hashable Frame where
  hash
    | .part r => mixHash 37 (hash r)
    | .loop _ n _ _ => mixHash 41 (hash n)
    | .rest _ p => mixHash 43 (hash p)

def Frame.release : Frame → Frame
  | .loop _ n greedy x => .loop .busy n greedy x
  | f => f

/-- What a thread still has to match, the next thing first. -/
abbrev Stack := List Frame

/-- What a stack comes to at a place without taking a byte. -/
inductive Settling
  /-- It waits for a byte, or has nothing left to match. -/
  | settled
  /-- It goes on as each of these, the preferred one first. -/
  | split (branches : List Stack)

/-- The two ways on from a repetition, the preferred one first. -/
def ways (greedy : Bool) (again leave : Stack) : List Stack :=
  if greedy then [again, leave] else [leave, again]

/-- One step of a stack that takes no byte, between the bytes behind and those ahead. -/
def Stack.expand (behind ahead : List UInt8) : Stack → Settling
  | [] => .settled
  | .rest _ _ :: _ => .settled
  | .loop .entry _ _ _ :: k => .split [k]
  | .loop .idle _ _ _ :: _ => .split []
  | .loop .busy n greedy x :: k =>
    .split (ways greedy (.part x :: .loop .idle n greedy x :: k) k)
  | .part r :: k =>
    match r with
    | .char _ | .byte _ => .settled
    | .empty => .split [k]
    | .look l => .split (if l.holds behind ahead then [k] else [])
    | .cat _ x y => .split [.part x :: .part y :: k]
    | .alt _ x y => .split [.part x :: k, .part y :: k]
    | .rep n (min + 1) max greedy x =>
      match min, max with
      | 0, none => .split [.part x :: .loop .entry n greedy x :: k]
      | min, max => .split [.part x :: .part (.rep n min (max.map (· - 1)) greedy x) :: k]
    | .rep n 0 none greedy x =>
      .split (ways greedy (.part x :: .loop .entry n greedy x :: k) k)
    | .rep _ 0 (some 0) _ _ => .split [k]
    | .rep n 0 (some (max + 1)) greedy x =>
      .split (ways greedy (.part x :: .part (.rep n 0 (some max) greedy x) :: k) k)

/-! ## Settling ends -/

def iterate (f : Nat → Nat) : Nat → Nat → Nat
  | 0, k => k
  | n + 1, k => f (iterate f n k)

/-- A bound on the steps that an expression takes to settle before `k` further steps. -/
def cost : Regex → Nat → Nat
  | .char _, _ | .byte _, _ => 1
  | .empty, k | .look _, k => k + 1
  | .cat _ x y, k => cost x (cost y k) + 1
  | .alt _ x y, k => cost x k + cost y k + 1
  | .rep _ min max _ x, k =>
    let last := match max with
      | none => cost x (k + 1) + k + 1
      | some max => iterate (fun c => cost x (c + 1) + k + 1) (max - min) k
    iterate (fun c => cost x (c + 1) + 1) min last + 1

def Stack.cost : Stack → Nat
  | [] => 1
  | .rest _ _ :: _ => 1
  | .loop .entry _ _ _ :: k => Stack.cost k + 1
  | .loop .idle _ _ _ :: _ => 1
  | .loop .busy _ _ x :: k => Search.cost x 1 + Stack.cost k + 1
  | .part r :: k => Search.cost r (Stack.cost k)

theorem iterate_mono {f g : Nat → Nat} (hf : ∀ a b, a ≤ b → f a ≤ g b) (n : Nat) {a b : Nat}
    (h : a ≤ b) : iterate f n a ≤ iterate g n b := by
  induction n with
  | zero => exact h
  | succ n ih => exact hf _ _ ih

theorem cost_mono (r : Regex) {a b : Nat} (h : a ≤ b) : cost r a ≤ cost r b := by
  induction r generalizing a b with
  | char | byte => simp [cost]
  | empty | look => simp [cost]; omega
  | cat n x y hx hy => simp only [cost]; exact Nat.succ_le_succ (hx (hy h))
  | alt n x y hx hy => simp only [cost]; have := hx h; have := hy h; omega
  | rep n min max greedy x hx =>
    simp only [cost]
    refine Nat.succ_le_succ (iterate_mono ?_ min ?_)
    · intro c d hcd
      exact Nat.succ_le_succ (hx (Nat.succ_le_succ hcd))
    · cases max with
      | none =>
        have : cost x (a + 1) ≤ cost x (b + 1) := hx (Nat.succ_le_succ h)
        simp only
        omega
      | some max =>
        refine iterate_mono ?_ _ h
        intro c d hcd
        have : cost x (c + 1) ≤ cost x (d + 1) := hx (Nat.succ_le_succ hcd)
        omega

theorem cost_pos (r : Regex) (k : Nat) : 0 < cost r k := by
  cases r <;> simp [cost]

theorem Stack.cost_pos (s : Stack) : 0 < s.cost := by
  match s with
  | [] => simp [Stack.cost]
  | .rest _ _ :: _ => simp [Stack.cost]
  | .loop .entry _ _ _ :: k => simp [Stack.cost]
  | .loop .idle _ _ _ :: _ => simp [Stack.cost]
  | .loop .busy _ _ _ :: k => simp [Stack.cost]
  | .part r :: k => exact Search.cost_pos r _

def totalCost : List Stack → Nat
  | [] => 0
  | s :: rest => s.cost + totalCost rest

theorem totalCost_append (ss ts : List Stack) :
    totalCost (ss ++ ts) = totalCost ss + totalCost ts := by
  induction ss with
  | nil => rw [List.nil_append, totalCost, Nat.zero_add]
  | cons s ss ih => rw [List.cons_append, totalCost, totalCost, ih, Nat.add_assoc]

theorem totalCost_ways (greedy : Bool) (s t : Stack) :
    totalCost (ways greedy s t) = s.cost + t.cost := by
  cases greedy with
  | true => simp only [ways, totalCost, if_true, Nat.add_zero]
  | false =>
    simp only [ways, totalCost, Bool.false_eq_true, if_false, Nat.add_zero]
    omega

/-- A step that takes no byte leaves less to do. -/
theorem Stack.cost_expand {behind ahead : List UInt8} {s : Stack} {branches : List Stack}
    (h : s.expand behind ahead = .split branches) : totalCost branches < s.cost := by
  match s with
  | [] => simp [Stack.expand] at h
  | .rest _ _ :: _ => simp [Stack.expand] at h
  | .loop .entry _ _ _ :: k =>
    simp only [Stack.expand, Settling.split.injEq] at h
    subst h
    simp [totalCost, Stack.cost]
  | .loop .idle _ _ _ :: _ =>
    simp only [Stack.expand, Settling.split.injEq] at h
    subst h
    simp [totalCost, Stack.cost]
  | .loop .busy _ _ x :: k =>
    simp only [Stack.expand, Settling.split.injEq] at h
    subst h
    rw [totalCost_ways]
    simp only [Stack.cost]
    omega
  | .part r :: k =>
    have hk := Stack.cost_pos k
    cases r with
    | char | byte => simp [Stack.expand] at h
    | empty =>
      simp only [Stack.expand, Settling.split.injEq] at h
      subst h
      simp [totalCost, Stack.cost, Search.cost]
    | look l =>
      simp only [Stack.expand, Settling.split.injEq] at h
      subst h
      split <;> simp [totalCost, Stack.cost, Search.cost]
    | cat n x y =>
      simp only [Stack.expand, Settling.split.injEq] at h
      subst h
      simp [totalCost, Stack.cost, Search.cost]
    | alt n x y =>
      simp only [Stack.expand, Settling.split.injEq] at h
      subst h
      simp [totalCost, Stack.cost, Search.cost]
    | rep n min max greedy x =>
      match min, max with
      | 0, none =>
        simp only [Stack.expand, Settling.split.injEq] at h
        subst h
        rw [totalCost_ways]
        simp only [Stack.cost, Search.cost, iterate]
        omega
      | 0, some 0 =>
        simp only [Stack.expand, Settling.split.injEq] at h
        subst h
        simp [totalCost, Stack.cost, Search.cost, iterate]
      | 0, some (max + 1) =>
        simp only [Stack.expand, Settling.split.injEq] at h
        subst h
        rw [totalCost_ways]
        simp only [Stack.cost, Search.cost, iterate, Nat.sub_zero]
        omega
      | 1, none =>
        simp only [Stack.expand, Settling.split.injEq] at h
        subst h
        simp only [totalCost, Stack.cost, Search.cost, iterate]
        have := cost_mono x (a := Stack.cost k + 1)
          (b := Search.cost x (Stack.cost k + 1) + Stack.cost k + 1 + 1) (by omega)
        omega
      | min + 2, none =>
        simp only [Stack.expand, Settling.split.injEq] at h
        subst h
        simp only [totalCost, Stack.cost, Search.cost, iterate, Option.map]
        omega
      | min + 1, some max =>
        simp only [Stack.expand, Settling.split.injEq] at h
        subst h
        simp only [totalCost, Stack.cost, Search.cost, iterate, Option.map]
        rw [show max - 1 - min = max - (min + 1) by omega]
        omega

/-! ## Threads -/

structure Thread where
  start : Nat
  stack : Stack
  deriving DecidableEq, Repr

/-- Settles threads in order. Of threads that have the same left to match, the first one stays. -/
def settleFrom (behind ahead : List UInt8) (seen : Std.HashSet Stack) (settled : List Thread) :
    List Thread → List Thread
  | [] => settled.reverse
  | t :: todo =>
    if seen.contains t.stack then settleFrom behind ahead seen settled todo
    else
      match h : t.stack.expand behind ahead with
      | .settled => settleFrom behind ahead (seen.insert t.stack) (t :: settled) todo
      | .split branches =>
        settleFrom behind ahead (seen.insert t.stack) settled
          (branches.map (⟨t.start, ·⟩) ++ todo)
termination_by todo => totalCost (todo.map Thread.stack)
decreasing_by
  all_goals simp only [totalCost, List.map_cons, List.map_append, totalCost_append, List.map_map,
    Function.comp_def, List.map_id']
  · have := Stack.cost_pos t.stack; omega
  · have := Stack.cost_pos t.stack; omega
  · have := Stack.cost_expand h; omega

/-- The threads at a place taken as far as they go without a byte, in order of preference. -/
def settle (behind ahead : List UInt8) (threads : List Thread) : List Thread :=
  settleFrom behind ahead {} [] threads

/-- Whether some value in the set has an encoding that goes on from here. -/
def canFinish (set : IntervalSet) (p : Utf8.Partial) : Bool :=
  set.meets p.lo (min p.hi 0xD7FF) || set.meets (max p.lo 0xE000) p.hi

/-- A character's encoding so far, before the rest of the stack: due bytes come first. -/
def Stack.await (set : IntervalSet) (p : Utf8.Partial) (k : Stack) : Option Stack :=
  if canFinish set p then some (if p.due = 0 then k else .rest set p :: k) else none

def Stack.feed (b : UInt8) : Stack → Option Stack
  | .part (.byte s) :: k => if s.contains b.toNat then some (k.map Frame.release) else none
  | .part (.char s) :: k =>
    if b < 0x80 then if s.contains b.toNat then some (k.map Frame.release) else none
    else match Utf8.Partial.ofLead? b with
      | some p => Stack.await s p (k.map Frame.release)
      | none => none
  | .rest s p :: k =>
    if Utf8.isContinuation b then Stack.await s (p.push b) k else none
  | _ => none

def Thread.feed? (b : UInt8) (t : Thread) : Option Thread :=
  (t.stack.feed b).map (⟨t.start, ·⟩)

def Thread.matched (t : Thread) : Bool := t.stack.isEmpty

def Thread.begin (r : Regex) (offset : Nat) : Thread := ⟨offset, [.part r]⟩

end Multimatch.Search
