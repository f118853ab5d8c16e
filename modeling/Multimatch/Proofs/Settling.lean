import Multimatch.Haystack.Span
import Multimatch.Proofs.Stacks

/-!
# Settling loses no span that counts

Threads stand for spans, in order of preference: those of the first thread go before those of the
next. Settling them drops every thread but the first of those with the same left to match. This
loses spans, but never the first one that ends at a place of a given kind, be it a certain place or
any (`find?_spansOf_settle`); all that a walk asks of settled threads comes down to that.
-/
namespace Multimatch.Search

variable {h : Haystack} {i j : Nat} {s : Stack}

/-! ## Spans that threads stand for -/

/-- The spans of the matches that a thread makes from a place, the preferred one first. -/
def Thread.spans (h : Haystack) (i : Nat) (t : Thread) : List Span :=
  (t.stack.ends h false i).map (⟨t.start, ·⟩)

/-- The spans of the matches that threads make from a place, the preferred one first. -/
def spansOf (h : Haystack) (i : Nat) (threads : List Thread) : List Span :=
  threads.flatMap (Thread.spans h i)

theorem spansOf_cons (h : Haystack) (i : Nat) (t : Thread) (threads : List Thread) :
    spansOf h i (t :: threads) = t.spans h i ++ spansOf h i threads :=
  List.flatMap_cons

theorem spansOf_append (h : Haystack) (i : Nat) (threads others : List Thread) :
    spansOf h i (threads ++ others) = spansOf h i threads ++ spansOf h i others :=
  List.flatMap_append

/-- A step that takes no byte leaves the spans as they are. -/
theorem spansOf_branches {t : Thread} {branches : List Stack}
    (ht : t.stack.expand (h.take i).reverse (h.drop i) = .split branches) :
    spansOf h i (branches.map (⟨t.start, ·⟩)) = t.spans h i := by
  rw [Thread.spans, ends_of_expand ht, spansOf, List.flatMap_map, List.map_flatMap]
  rfl

section Settle

variable {behind ahead : List UInt8} {seen : Std.HashSet Stack} {settled todo threads : List Thread}

theorem settleFrom_of_contains {t : Thread} (hseen : seen.contains t.stack = true) :
    settleFrom behind ahead seen settled (t :: todo) =
      settleFrom behind ahead seen settled todo := by
  rw [settleFrom, if_pos hseen]

theorem settleFrom_of_settled {t : Thread} (hnew : ¬ seen.contains t.stack = true)
    (ht : t.stack.expand behind ahead = .settled) :
    settleFrom behind ahead seen settled (t :: todo) =
      settleFrom behind ahead (seen.insert t.stack) (t :: settled) todo := by
  rw [settleFrom, if_neg hnew]
  split
  · rfl
  · next hsplit =>
    rw [ht] at hsplit
    cases hsplit

theorem settleFrom_of_split {t : Thread} {branches : List Stack}
    (hnew : ¬ seen.contains t.stack = true) (ht : t.stack.expand behind ahead = .split branches) :
    settleFrom behind ahead seen settled (t :: todo) =
      settleFrom behind ahead (seen.insert t.stack) settled
        (branches.map (⟨t.start, ·⟩) ++ todo) := by
  rw [settleFrom, if_neg hnew]
  split
  · next hsettled =>
    rw [ht] at hsettled
    cases hsettled
  · next hsplit =>
    rw [ht] at hsplit
    obtain rfl := Settling.split.inj hsplit
    rfl

/-- The threads that are settled already stay in front. -/
theorem settleFrom_append (before : List Thread) :
    settleFrom behind ahead seen (settled ++ before) todo =
      before.reverse ++ settleFrom behind ahead seen settled todo := by
  induction seen, settled, todo using settleFrom.induct behind ahead with
  | case1 seen settled => rw [settleFrom, settleFrom, List.reverse_append]
  | case2 seen settled t todo hseen ih =>
    rw [settleFrom_of_contains hseen, settleFrom_of_contains hseen, ih]
  | case3 seen settled t todo hnew ht ih =>
    rw [settleFrom_of_settled hnew ht, settleFrom_of_settled hnew ht, ← ih, List.cons_append]
  | case4 seen settled t todo hnew branches ht ih =>
    rw [settleFrom_of_split hnew ht, settleFrom_of_split hnew ht, ih]

theorem settleFrom_eq_append : settleFrom behind ahead seen settled todo =
    settled.reverse ++ settleFrom behind ahead seen [] todo := by
  rw [← settleFrom_append, List.nil_append]

variable {q : Nat → Bool}

/-- Whether a stack can end at a place of some kind. -/
def Stack.hits (h : Haystack) (i : Nat) (q : Nat → Bool) (s : Stack) : Bool :=
  (s.ends h false i).any q

theorem find?_spans_eq_none {t : Thread} (ht : t.stack.hits h i q = false) :
    (t.spans h i).find? (q ·.stop) = none := by
  have hnone : ∀ j ∈ t.stack.ends h false i, ¬ q j = true := List.any_eq_false.1 ht
  rw [Thread.spans, List.find?_map, Option.map_eq_none_iff, List.find?_eq_none]
  exact hnone

theorem exists_find?_spans {t : Thread} (ht : t.stack.hits h i q = true) :
    ∃ span, (t.spans h i).find? (q ·.stop) = some span := by
  obtain ⟨j, hj, hq⟩ := List.any_eq_true.1 ht
  rw [← Option.isSome_iff_exists, List.find?_isSome]
  exact ⟨⟨t.start, j⟩, List.mem_map_of_mem hj, hq⟩

theorem find?_spansOf_eq_none (hnone : ∀ t ∈ threads, t.stack.hits h i q = false) :
    (spansOf h i threads).find? (q ·.stop) = none := by
  induction threads with
  | nil => rfl
  | cons t threads ih =>
    rw [List.forall_mem_cons] at hnone
    rw [spansOf_cons, List.find?_append, find?_spans_eq_none hnone.1, ih hnone.2]
    rfl

/-- A stack ends somewhere if one of its branches does. -/
theorem hits_of_expand {branches : List Stack}
    (hs : s.expand (h.take i).reverse (h.drop i) = .split branches) :
    s.hits h i q = branches.any (Stack.hits h i q) := by
  rw [Stack.hits, ends_of_expand hs, List.any_flatMap]
  rfl

theorem cost_le_totalCost {branches : List Stack} (hs : s ∈ branches) :
    s.cost ≤ totalCost branches := by
  induction branches with
  | nil => cases hs
  | cons t rest ih =>
    rw [totalCost]
    rcases List.mem_cons.1 hs with rfl | hs
    · exact Nat.le_add_right _ _
    · exact Nat.le_trans (ih hs) (Nat.le_add_left _ _)

/-- Every stack seen that can end somewhere costs more to settle than the first thread to come that
can. So it is not this thread that is dropped. -/
def Dearer (h : Haystack) (i : Nat) (q : Nat → Bool) (seen : Std.HashSet Stack)
    (todo : List Thread) : Prop :=
  ∀ s : Stack, seen.contains s = true → s.hits h i q = true →
    ∃ t : Thread, todo.find? (fun t => t.stack.hits h i q) = some t ∧ t.stack.cost < s.cost

namespace Dearer

variable {t : Thread}

theorem not_hits (hd : Dearer h i q seen (t :: todo)) (hseen : seen.contains t.stack = true) :
    t.stack.hits h i q = false := by
  rw [← Bool.not_eq_true]
  intro ht
  obtain ⟨t', hfind, hlt⟩ := hd t.stack hseen ht
  rw [List.find?_cons, ht] at hfind
  obtain rfl := Option.some.inj hfind
  exact Nat.lt_irrefl _ hlt

theorem tail (hd : Dearer h i q seen (t :: todo)) (ht : t.stack.hits h i q = false) :
    Dearer h i q seen todo := by
  intro s hs hhit
  obtain ⟨t', hfind, hlt⟩ := hd s hs hhit
  rw [List.find?_cons, ht] at hfind
  exact ⟨t', hfind, hlt⟩

theorem insert (hd : Dearer h i q seen todo) (hnot : s.hits h i q = false) :
    Dearer h i q (seen.insert s) todo := by
  intro s' hs hhit
  rw [Std.HashSet.contains_insert, Bool.or_eq_true, beq_iff_eq] at hs
  rcases hs with rfl | hs
  · rw [hnot] at hhit
    cases hhit
  · exact hd s' hs hhit

/-- Branches cost less than the stack they come from. -/
theorem split (hd : Dearer h i q seen (t :: todo)) {branches : List Stack}
    (hs : t.stack.expand (h.take i).reverse (h.drop i) = .split branches) :
    Dearer h i q (seen.insert t.stack) (branches.map (⟨t.start, ·⟩) ++ todo) := by
  have hbranches : t.stack.hits h i q = branches.any (Stack.hits h i q) := hits_of_expand hs
  rw [Dearer]
  simp only [List.find?_append]
  cases ht : t.stack.hits h i q with
  | false =>
    rw [ht] at hbranches
    have hnone : (branches.map (Thread.mk t.start)).find? (fun t => t.stack.hits h i q) = none := by
      rw [List.find?_map, Option.map_eq_none_iff, List.find?_eq_none]
      exact List.any_eq_false.1 hbranches.symm
    rw [hnone]
    exact (hd.tail ht).insert ht
  | true =>
    obtain ⟨s, hfind⟩ : ∃ s, branches.find? (Stack.hits h i q) = some s := by
      rw [← Option.isSome_iff_exists, List.find?_isSome]
      exact List.any_eq_true.1 (hbranches.symm.trans ht)
    have hfirst : (branches.map (Thread.mk t.start)).find? (fun t => t.stack.hits h i q) =
        some ⟨t.start, s⟩ := by
      rw [List.find?_map]
      exact congrArg (Option.map _) hfind
    have hless : s.cost < t.stack.cost := Nat.lt_of_le_of_lt
      (cost_le_totalCost (List.mem_of_find?_eq_some hfind)) (Stack.cost_expand hs)
    rw [hfirst]
    intro s' hs' hhit
    refine ⟨⟨t.start, s⟩, rfl, ?_⟩
    rw [Std.HashSet.contains_insert, Bool.or_eq_true, beq_iff_eq] at hs'
    rcases hs' with rfl | hs'
    · exact hless
    · obtain ⟨t', hfind', hlt⟩ := hd s' hs' hhit
      rw [List.find?_cons, ht] at hfind'
      obtain rfl := Option.some.inj hfind'
      exact Nat.lt_trans hless hlt

end Dearer

theorem find?_spansOf_settleFrom (hsettled : ∀ t ∈ settled, t.stack.hits h i q = false)
    (hd : Dearer h i q seen todo) :
    (spansOf h i (settleFrom (h.take i).reverse (h.drop i) seen settled todo)).find? (q ·.stop) =
      (spansOf h i todo).find? (q ·.stop) := by
  induction seen, settled, todo using settleFrom.induct (h.take i).reverse (h.drop i) with
  | case1 seen settled =>
    rw [settleFrom, find?_spansOf_eq_none fun t ht => hsettled t (List.mem_reverse.1 ht)]
    rfl
  | case2 seen settled t todo hseen ih =>
    have ht := hd.not_hits hseen
    rw [settleFrom_of_contains hseen, ih hsettled (hd.tail ht), spansOf_cons, List.find?_append,
      find?_spans_eq_none ht]
    rfl
  | case3 seen settled t todo hnew hexpand ih =>
    rw [settleFrom_of_settled hnew hexpand, spansOf_cons, List.find?_append]
    cases ht : t.stack.hits h i q with
    | true =>
      -- The thread has the first of the spans, and nothing that comes later goes before it.
      obtain ⟨span, hspan⟩ := exists_find?_spans ht
      have hbefore := find?_spansOf_eq_none fun t ht => hsettled t (List.mem_reverse.1 ht)
      rw [settleFrom_eq_append, List.reverse_cons, spansOf_append, spansOf_append, spansOf_cons,
        List.find?_append, List.find?_append, List.find?_append, hbefore, hspan]
      rfl
    | false =>
      have hsettled' : ∀ t' ∈ t :: settled, t'.stack.hits h i q = false :=
        List.forall_mem_cons.2 ⟨ht, hsettled⟩
      rw [ih hsettled' ((hd.tail ht).insert ht), find?_spans_eq_none ht]
      rfl
  | case4 seen settled t todo hnew branches hexpand ih =>
    rw [settleFrom_of_split hnew hexpand, ih hsettled (hd.split hexpand), spansOf_append,
      spansOf_branches hexpand, spansOf_cons]

/-- Settling keeps the first span that ends at a place of some kind. -/
theorem find?_spansOf_settle (q : Nat → Bool) (threads : List Thread) :
    (spansOf h i (settle (h.take i).reverse (h.drop i) threads)).find? (q ·.stop) =
      (spansOf h i threads).find? (q ·.stop) := by
  refine find?_spansOf_settleFrom (fun t ht => absurd ht List.not_mem_nil) fun s hs => ?_
  rw [Std.HashSet.contains_empty] at hs
  cases hs

theorem expand_of_mem_settleFrom {t : Thread}
    (hsettled : ∀ t ∈ settled, t.stack.expand behind ahead = .settled)
    (ht : t ∈ settleFrom behind ahead seen settled todo) :
    t.stack.expand behind ahead = .settled := by
  induction seen, settled, todo using settleFrom.induct behind ahead with
  | case1 seen settled =>
    rw [settleFrom] at ht
    exact hsettled t (List.mem_reverse.1 ht)
  | case2 seen settled t' todo hseen ih =>
    rw [settleFrom_of_contains hseen] at ht
    exact ih hsettled ht
  | case3 seen settled t' todo hnew hexpand ih =>
    rw [settleFrom_of_settled hnew hexpand] at ht
    exact ih (List.forall_mem_cons.2 ⟨hexpand, hsettled⟩) ht
  | case4 seen settled t' todo hnew branches hexpand ih =>
    rw [settleFrom_of_split hnew hexpand] at ht
    exact ih hsettled ht

/-- Settled threads have nothing left to do before a byte. -/
theorem expand_of_mem_settle {t : Thread} (ht : t ∈ settle behind ahead threads) :
    t.stack.expand behind ahead = .settled :=
  expand_of_mem_settleFrom (fun _ ht => absurd ht List.not_mem_nil) ht

end Settle

/-! ### Settled threads -/

section Settled

variable {behind ahead : List UInt8} {b : UInt8} {t : Thread} {threads : List Thread}

theorem spans_of_matched (ht : t.matched = true) : t.spans h i = [⟨t.start, i⟩] := by
  have hnil : t.stack = [] := List.isEmpty_iff.1 ht
  rw [Thread.spans, hnil]
  rfl

theorem spans_at_end (hdrop : h.drop i = []) (hs : t.stack.expand behind [] = .settled)
    (ht : t.matched = false) : t.spans h i = [] := by
  have hne : t.stack ≠ [] := List.isEmpty_eq_false_iff.1 ht
  rw [Thread.spans, ends_of_settled_at_end hdrop hs hne]
  rfl

theorem spansOf_at_end (hdrop : h.drop i = [])
    (hs : ∀ t ∈ threads, t.stack.expand behind [] = .settled)
    (hnot : ∀ t ∈ threads, t.matched = false) : spansOf h i threads = [] :=
  List.flatMap_eq_nil_iff.2 fun t ht => spans_at_end hdrop (hs t ht) (hnot t ht)

theorem spans_of_feed (hdrop : h.drop i = b :: ahead)
    (hs : t.stack.expand behind (b :: ahead) = .settled) (ht : t.matched = false) :
    t.spans h i = ((t.feed? b).map (Thread.spans h (i + 1))).getD [] := by
  have hne : t.stack ≠ [] := List.isEmpty_eq_false_iff.1 ht
  rw [Thread.spans, ends_of_feed hdrop hs hne, Thread.feed?]
  cases t.stack.feed b <;> rfl

/-- A byte leaves the spans of threads that have not matched as they are. -/
theorem spansOf_feed (hdrop : h.drop i = b :: ahead)
    (hs : ∀ t ∈ threads, t.stack.expand behind (b :: ahead) = .settled)
    (hnot : ∀ t ∈ threads, t.matched = false) :
    spansOf h i threads = spansOf h (i + 1) (threads.filterMap (Thread.feed? b)) := by
  induction threads with
  | nil => rfl
  | cons t threads ih =>
    rw [List.forall_mem_cons] at hs hnot
    rw [spansOf_cons, spans_of_feed hdrop hs.1 hnot.1, ih hs.2 hnot.2, List.filterMap_cons]
    cases t.feed? b with
    | none => rfl
    | some t' => exact (spansOf_cons h (i + 1) t' _).symm

/-- A byte loses no span but those that end before it. -/
theorem find?_spansOf_feed {q : Nat → Bool} (hdrop : h.drop i = b :: ahead)
    (hs : ∀ t ∈ threads, t.stack.expand behind (b :: ahead) = .settled) (hq : q i = false) :
    (spansOf h i threads).find? (q ·.stop) =
      (spansOf h (i + 1) (threads.filterMap (Thread.feed? b))).find? (q ·.stop) := by
  induction threads with
  | nil => rfl
  | cons t threads ih =>
    rw [List.forall_mem_cons] at hs
    rw [spansOf_cons, List.find?_append, ih hs.2, List.filterMap_cons]
    cases ht : t.matched with
    | true =>
      have hfed : t.feed? b = none := by
        rw [Thread.feed?, List.isEmpty_iff.1 ht]
        rfl
      rw [spans_of_matched ht, hfed, List.find?_cons_of_neg (by rw [hq]; exact Bool.false_ne_true)]
      rfl
    | false =>
      rw [spans_of_feed hdrop hs.1 ht]
      cases t.feed? b with
      | none => rfl
      | some t' => exact (List.find?_append).symm

/-- A thread that waits for a byte stands for spans that end later. -/
theorem lt_of_mem_spans {span : Span} (hs : t.stack.expand behind (h.drop i) = .settled)
    (ht : t.matched = false) (hspan : span ∈ t.spans h i) : i < span.stop := by
  cases hdrop : h.drop i with
  | nil =>
    rw [hdrop] at hs
    rw [spans_at_end hdrop hs ht] at hspan
    cases hspan
  | cons b ahead =>
    rw [hdrop] at hs
    rw [spans_of_feed hdrop hs ht] at hspan
    cases hfed : t.feed? b with
    | none =>
      rw [hfed] at hspan
      cases hspan
    | some t' =>
      rw [hfed] at hspan
      obtain ⟨j, hj, rfl⟩ := List.mem_map.1 hspan
      exact le_of_mem_ends hj

/-- The first span that ends where settled threads are is that of the first one that has matched. -/
theorem find?_spansOf_here (hs : ∀ t ∈ threads, t.stack.expand behind (h.drop i) = .settled) :
    (spansOf h i threads).find? (·.stop == i) =
      (threads.find? Thread.matched).map fun t => ⟨t.start, i⟩ := by
  induction threads with
  | nil => rfl
  | cons t threads ih =>
    rw [List.forall_mem_cons] at hs
    rw [spansOf_cons, List.find?_append, ih hs.2, List.find?_cons]
    cases ht : t.matched with
    | true =>
      rw [spans_of_matched ht]
      simp
    | false =>
      have hnone : (t.spans h i).find? (·.stop == i) = none := by
        rw [List.find?_eq_none]
        intro span hspan heq
        have hlt := lt_of_mem_spans hs.1 ht hspan
        rw [beq_iff_eq.1 heq] at hlt
        exact Nat.lt_irrefl i hlt
      rw [hnone]
      rfl

end Settled

end Multimatch.Search
