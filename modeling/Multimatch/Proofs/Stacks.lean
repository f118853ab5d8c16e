import Multimatch.Proofs.Matching
import Multimatch.Search.Thread

/-!
# What stacks stand for

A stack stands for the ends of the matches that it can still make from a place, in order of
preference: `Stack.ends`. A step that takes no byte splits these ends among the branches
(`ends_of_expand`), and a byte leaves them as they are (`ends_of_feed`). The bytes of a character
are taken one by one, and a stack is given up as soon as no character of the set can come of them;
`restEnds_eq` says that this is decoding all the same.
-/
namespace Multimatch.Search

/-! ## Ends that a stack stands for -/

/-- The end of a character whose encoding is read in part, if the character is in the set. -/
def restEnds (s : IntervalSet) (p : Utf8.Partial) (i : Nat) : List UInt8 → List Nat
  | [] => []
  | b :: rest =>
    if Utf8.isContinuation b && canFinish s (p.push b) then
      if (p.push b).due = 0 then [i + 1] else restEnds s (p.push b) (i + 1) rest
    else []

/-- The ends of a loop that a thread is in. -/
def loopEnds (h : Haystack) (greedy : Bool) (x : Regex) (i : Nat) : Round → List Nat
  | .entry => [i]
  | .idle => []
  | .busy => Regex.rounds h.length (x.ends h) greedy i

/-- The ends of the matches that a stack makes from a place, the preferred one first. If a byte was
`taken` since the loops below were last looked at, they are in a busy round. -/
def Stack.ends (h : Haystack) (taken : Bool) : Stack → Nat → List Nat
  | [], i => [i]
  | .part r :: k, i => (r.ends h i).flatMap fun j => Stack.ends h (taken || i < j) k j
  | .loop round _ greedy x :: k, i =>
    (loopEnds h greedy x i (if taken then .busy else round)).flatMap fun j =>
      Stack.ends h (taken || i < j) k j
  | .rest s p :: k, i => (restEnds s p i (h.drop i)).flatMap fun j => Stack.ends h taken k j

variable {h : Haystack} {i j n : Nat} {greedy : Bool} {x : Regex} {k s : Stack}

theorem ends_release (taken : Bool) :
    Stack.ends h taken (k.map Frame.release) i = Stack.ends h true k i := by
  induction k generalizing taken i with
  | nil => rfl
  | cons f k ih =>
    cases f with
    | part r => simp only [List.map_cons, Frame.release, Stack.ends, ih, Bool.true_or]
    | loop round label greedy x =>
      simp only [List.map_cons, Frame.release, Stack.ends, ih, if_true, ite_self, Bool.true_or]
    | rest s p => simp only [List.map_cons, Frame.release, Stack.ends, ih]

theorem le_of_mem_restEnds {set : IntervalSet} {p : Utf8.Partial} {l : List UInt8}
    (hj : j ∈ restEnds set p i l) : i ≤ j := by
  induction l generalizing p i with
  | nil => cases hj
  | cons b rest ih =>
    rw [restEnds] at hj
    split at hj
    · split at hj
      · rw [List.mem_singleton] at hj
        omega
      · exact Nat.le_of_succ_le (ih hj)
    · cases hj

theorem le_of_mem_loopEnds {round : Round} (hj : j ∈ loopEnds h greedy x i round) : i ≤ j := by
  cases round with
  | entry => exact Nat.le_of_eq (List.mem_singleton.1 hj).symm
  | idle => cases hj
  | busy => exact Regex.le_of_mem_rounds hj

theorem le_of_mem_ends {taken : Bool} (hj : j ∈ s.ends h taken i) : i ≤ j := by
  induction s generalizing taken i with
  | nil => exact Nat.le_of_eq (List.mem_singleton.1 hj).symm
  | cons f k ih =>
    cases f with
    | part r =>
      obtain ⟨e, he, hj⟩ := List.mem_flatMap.1 hj
      exact Nat.le_trans (Regex.mem_ends_iff.1 he).le (ih hj)
    | loop round n greedy x =>
      obtain ⟨e, he, hj⟩ := List.mem_flatMap.1 hj
      exact Nat.le_trans (le_of_mem_loopEnds he) (ih hj)
    | rest set p =>
      obtain ⟨e, he, hj⟩ := List.mem_flatMap.1 hj
      exact Nat.le_trans (le_of_mem_restEnds he) (ih hj)

/-! ### Steps that take no byte -/

theorem flatMap_inOrder (again leave : List Nat) (f : Nat → List Nat) :
    (Regex.inOrder greedy again leave).flatMap f =
      Regex.inOrder greedy (again.flatMap f) (leave.flatMap f) := by
  cases greedy <;> simp [Regex.inOrder]

theorem flatMap_ways (again leave : Stack) (f : Stack → List Nat) :
    (ways greedy again leave).flatMap f = Regex.inOrder greedy (f again) (f leave) := by
  cases greedy <;> simp [ways, Regex.inOrder]

/-- A byte was taken on the way from `i` to `e` if one was on either part of it. -/
theorem taken_or {e : Nat} (hij : i ≤ j) (hje : j ≤ e) :
    (decide (i < j) || decide (j < e)) = decide (i < e) := by
  rw [← Bool.decide_or, decide_eq_decide]
  omega

theorem ends_part (r : Regex) : Stack.ends h false (.part r :: k) i =
    (r.ends h i).flatMap fun j => Stack.ends h (decide (i < j)) k j := by
  simp only [Stack.ends, Bool.false_or]

theorem ends_here (k : Stack) :
    [i].flatMap (fun j => Stack.ends h (decide (i < j)) k j) = k.ends h false i := by
  rw [List.flatMap_singleton, decide_eq_false (Nat.lt_irrefl i)]

theorem ends_part_part (r : Regex) :
    (x.ends h i).flatMap (fun j => Stack.ends h (decide (i < j)) (.part r :: k) j) =
      ((x.ends h i).flatMap (r.ends h)).flatMap fun j => Stack.ends h (decide (i < j)) k j := by
  rw [List.flatMap_assoc]
  refine List.flatMap_congr fun j hj => List.flatMap_congr fun e he => ?_
  rw [taken_or (Regex.mem_ends_iff.1 hj).le (Regex.mem_ends_iff.1 he).le]

theorem ends_part_loop (round : Round) (n : Nat) :
    (x.ends h i).flatMap (fun j => Stack.ends h (decide (i < j)) (.loop round n greedy x :: k) j) =
      ((x.ends h i).flatMap fun j =>
        loopEnds h greedy x j (if i < j then .busy else round)).flatMap
          fun j => Stack.ends h (decide (i < j)) k j := by
  rw [List.flatMap_assoc]
  refine List.flatMap_congr fun j hj => ?_
  simp only [Stack.ends, decide_eq_true_eq]
  refine List.flatMap_congr fun e he => ?_
  rw [taken_or (Regex.mem_ends_iff.1 hj).le (le_of_mem_loopEnds he)]

theorem entered_eq : Regex.entered h.length (x.ends h) greedy i =
    (x.ends h i).flatMap fun j => loopEnds h greedy x j (if i < j then .busy else .entry) := by
  refine List.flatMap_congr fun j _ => ?_
  split <;> rfl

theorem rounds_eq_inOrder : Regex.rounds h.length (x.ends h) greedy i = Regex.inOrder greedy
    ((x.ends h i).flatMap fun j => loopEnds h greedy x j (if i < j then .busy else .idle)) [i] := by
  rw [Regex.rounds_eq]
  congr 1
  refine List.flatMap_congr fun j _ => ?_
  split <;> rfl

/-- A repetition is entered, left, or goes round once, as its bounds have it. -/
theorem ends_of_expand_rep {n min : Nat} {max : Option Nat} {branches : List Stack}
    (hs : Stack.expand (h.take i).reverse (h.drop i) (.part (.rep n min max greedy x) :: k) =
      .split branches) :
    Stack.ends h false (.part (.rep n min max greedy x) :: k) i =
      branches.flatMap fun t => t.ends h false i := by
  match min, max with
  | 0, none =>
    obtain rfl := Settling.split.inj hs
    rw [flatMap_ways, ends_part, ends_part, Regex.ends, Regex.atLeast, flatMap_inOrder,
      entered_eq, ← ends_part_loop _ n, ends_here]
  | 0, some 0 =>
    obtain rfl := Settling.split.inj hs
    rw [ends_part, Regex.ends, Regex.between, Regex.atMost, ends_here, List.flatMap_singleton]
  | 0, some (max + 1) =>
    obtain rfl := Settling.split.inj hs
    rw [flatMap_ways, ends_part, ends_part, Regex.ends, Regex.between, Regex.atMost,
      flatMap_inOrder, ends_here, ends_part_part]
    rfl
  | 1, none =>
    obtain rfl := Settling.split.inj hs
    rw [List.flatMap_singleton, ends_part, ends_part, Regex.ends, Regex.atLeast, entered_eq,
      ← ends_part_loop _ n]
  | min + 2, none =>
    obtain rfl := Settling.split.inj hs
    rw [List.flatMap_singleton, ends_part, ends_part, ends_part_part]
    rfl
  | min + 1, some max =>
    simp only [Stack.expand, Settling.split.injEq] at hs
    subst hs
    rw [List.flatMap_singleton, ends_part, ends_part, ends_part_part]
    rfl

/-- A step that takes no byte splits the ends among the branches, in order. -/
theorem ends_of_expand {branches : List Stack}
    (hs : s.expand (h.take i).reverse (h.drop i) = .split branches) :
    s.ends h false i = branches.flatMap fun t => t.ends h false i := by
  match s with
  | [] => cases hs
  | .rest _ _ :: _ => cases hs
  | .loop .entry _ _ _ :: k =>
    obtain rfl := Settling.split.inj hs
    simp [Stack.ends, loopEnds]
  | .loop .idle _ _ _ :: _ =>
    obtain rfl := Settling.split.inj hs
    simp [Stack.ends, loopEnds]
  | .loop .busy n greedy x :: k =>
    obtain rfl := Settling.split.inj hs
    simp only [Stack.ends, loopEnds, Bool.false_eq_true, if_false, Bool.false_or]
    rw [flatMap_ways, rounds_eq_inOrder, flatMap_inOrder, ← ends_part_loop _ n, ← ends_part,
      ends_here]
  | .part r :: k =>
    cases r with
    | char | byte => cases hs
    | empty =>
      obtain rfl := Settling.split.inj hs
      rw [ends_part, Regex.ends, ends_here, List.flatMap_singleton]
    | look l =>
      obtain rfl := Settling.split.inj hs
      rw [ends_part, Regex.ends]
      split
      · rw [ends_here, List.flatMap_singleton]
      · rfl
    | cat n x y =>
      obtain rfl := Settling.split.inj hs
      rw [List.flatMap_singleton, ends_part, ends_part, Regex.ends, ends_part_part]
    | alt n x y =>
      obtain rfl := Settling.split.inj hs
      rw [ends_part, Regex.ends, List.flatMap_append, ← ends_part, ← ends_part]
      simp only [List.flatMap_cons, List.flatMap_nil, List.append_nil]
    | rep n min max greedy x => exact ends_of_expand_rep hs

/-! ### Bytes -/

theorem canFinish_iff {s : IntervalSet} {p : Utf8.Partial} : canFinish s p = true ↔
    ∃ c, s.contains c = true ∧ p.lo ≤ c ∧ c ≤ p.hi ∧ Utf8.isScalar c = true := by
  have hlast : p.hi ≤ 0x10FFFF := Nat.min_le_right _ _
  rw [canFinish, Bool.or_eq_true, IntervalSet.meets_iff, IntervalSet.meets_iff]
  constructor
  · rintro (⟨c, hc, hlo, hhi⟩ | ⟨c, hc, hlo, hhi⟩)
    · exact ⟨c, hc, hlo, by omega, Utf8.isScalar_iff.2 (by omega)⟩
    · exact ⟨c, hc, by omega, hhi, Utf8.isScalar_iff.2 (by omega)⟩
  · rintro ⟨c, hc, hlo, hhi, hscalar⟩
    rcases Utf8.isScalar_iff.1 hscalar with hlow | hhigh
    · exact .inl ⟨c, hc, hlo, by omega⟩
    · exact .inr ⟨c, hc, by omega, hhi⟩

/-- The end of a character in the set, if the bytes go on with the rest of one. -/
def charEnds (s : IntervalSet) (i : Nat) : Option Nat → List Nat
  | some c => if s.contains c then [i] else []
  | none => []

/-- No value in the set is left open, so what is decoded is not in it. -/
theorem charEnds_of_not_canFinish {s : IntervalSet} {p : Utf8.Partial} {l : List UInt8}
    (hgo : canFinish s p = false) : charEnds s i (Utf8.decodeRest p l) = [] := by
  cases hc : Utf8.decodeRest p l with
  | none => rfl
  | some c =>
    obtain ⟨hlo, hhi, hscalar⟩ := Utf8.bounds_of_decodeRest hc
    have hs : ¬ s.contains c = true := fun hs => by
      rw [canFinish_iff.2 ⟨c, hs, hlo, hhi, hscalar⟩] at hgo
      cases hgo
    rw [charEnds, if_neg hs]

/-- Giving up early on a character that is not in the set loses nothing. -/
theorem restEnds_eq {s : IntervalSet} {p : Utf8.Partial} {l : List UInt8} (hdue : 0 < p.due) :
    restEnds s p i l = charEnds s (i + p.due) (Utf8.decodeRest p l) := by
  induction l generalizing p i with
  | nil =>
    have hnone : Utf8.decodeRest p [] = none := by
      rw [Utf8.decodeRest, ← Option.not_isSome_iff_eq_none, Option.isSome_iff_exists]
      rintro ⟨c, hc⟩
      have := (Utf8.finished?_eq_some_iff.1 hc).1
      omega
    rw [hnone]
    rfl
  | cons b rest ih =>
    have hnot : ¬ p.due = 0 := by omega
    rw [restEnds, Utf8.decodeRest, if_neg hnot]
    cases Utf8.isContinuation b with
    | false => rfl
    | true =>
      rw [Bool.true_and, if_pos rfl]
      cases hgo : canFinish s (p.push b) with
      | false =>
        rw [if_neg Bool.false_ne_true]
        exact (charEnds_of_not_canFinish hgo).symm
      | true =>
        have hpush : (p.push b).due = p.due - 1 := rfl
        rw [if_pos rfl]
        split
        · next hzero =>
          obtain ⟨c, hs, hlo, hhi, hscalar⟩ := canFinish_iff.1 hgo
          have hunit : Nat.pow 64 0 = 1 := rfl
          simp only [Utf8.Partial.lo, Utf8.Partial.hi, hzero, hunit, Nat.mul_one] at hlo hhi
          have hbits : (p.push b).bits = c := by omega
          have hc : Utf8.decodeRest (p.push b) rest = some c := by
            rw [Utf8.decodeRest_of_due hzero, Utf8.finished?_eq_some_iff]
            exact ⟨hzero, hbits, by omega, hscalar⟩
          have hone : p.due = 1 := by omega
          rw [hc, hone, charEnds, if_pos hs]
        · rw [ih (by omega), hpush]
          congr 1
          omega

/-- The end of a character that begins with the first byte of a longer encoding. -/
theorem ends_char_of_lead {set : IntervalSet} {b : UInt8} {ahead : List UInt8} {p : Utf8.Partial}
    (hdrop : h.drop i = b :: ahead) (hb : ¬ b < 0x80) (hlead : Utf8.Partial.ofLead? b = some p) :
    (Regex.char set).ends h i =
      if canFinish set p then
        if p.due = 0 then [i + 1] else restEnds set p (i + 1) ahead
      else [] := by
  have hdue : 0 < p.due := by
    rcases Utf8.ofLead?_eq_some_iff.1 hlead with ⟨_, _, rfl⟩ | ⟨_, _, rfl⟩ | ⟨_, _, rfl⟩ <;>
      exact Nat.succ_pos _
  have hends : (Regex.char set).ends h i =
      charEnds set (i + 1 + p.due) (Utf8.decodeRest p ahead) := by
    rw [Regex.ends, hdrop, Utf8.decodeFirst?, if_neg hb, hlead]
    dsimp only
    cases hc : Utf8.decodeRest p ahead with
    | none => rfl
    | some c =>
      have hlen : i + (Utf8.encode c).length = i + 1 + p.due := by
        rw [Utf8.encode_of_decodeRest hlead hc, List.length_cons, Utf8.length_tails]
        omega
      change (if set.contains c then [i + (Utf8.encode c).length] else []) = _
      rw [hlen]
      rfl
  rw [hends]
  cases hgo : canFinish set p with
  | false => exact charEnds_of_not_canFinish hgo
  | true => rw [if_pos rfl, if_neg (Nat.ne_of_gt hdue), restEnds_eq hdue]

/-- Reading on in a character that is followed by the rest of a stack. -/
theorem ends_await (s : IntervalSet) (p : Utf8.Partial) (k : Stack) :
    ((Stack.await s p k).map fun t => t.ends h false i).getD [] =
      (if canFinish s p then
        if p.due = 0 then [i] else restEnds s p i (h.drop i)
      else []).flatMap fun j => k.ends h false j := by
  rw [Stack.await]
  split
  · split
    · rw [List.flatMap_singleton]
      rfl
    · rfl
  · rfl

theorem settled_cases {behind ahead : List UInt8} (hs : s.expand behind ahead = .settled) :
    s = [] ∨ (∃ set p k, s = .rest set p :: k) ∨ (∃ set k, s = .part (.byte set) :: k) ∨
      ∃ set k, s = .part (.char set) :: k := by
  match s with
  | [] => exact .inl rfl
  | .rest set p :: k => exact .inr (.inl ⟨set, p, k, rfl⟩)
  | .loop .entry _ _ _ :: _ => cases hs
  | .loop .idle _ _ _ :: _ => cases hs
  | .loop .busy _ _ _ :: _ => cases hs
  | .part r :: k =>
    cases r with
    | byte set => exact .inr (.inr (.inl ⟨set, k, rfl⟩))
    | char set => exact .inr (.inr (.inr ⟨set, k, rfl⟩))
    | empty | look | cat | alt => cases hs
    | rep n min max greedy x =>
      match min, max with
      | 0, none => cases hs
      | 0, some 0 => cases hs
      | 0, some (max + 1) => cases hs
      | 1, none => cases hs
      | min + 2, none => cases hs
      | min + 1, some max => simp [Stack.expand] at hs

/-- At the end of the text, a stack that waits for a byte stands for nothing. -/
theorem ends_of_settled_at_end {behind : List UInt8} (hdrop : h.drop i = [])
    (hs : s.expand behind [] = .settled) (hne : s ≠ []) : s.ends h false i = [] := by
  rcases settled_cases hs with rfl | ⟨set, p, k, rfl⟩ | ⟨set, k, rfl⟩ | ⟨set, k, rfl⟩
  · exact absurd rfl hne
  · rw [Stack.ends, hdrop]
    rfl
  · have hnone : h[i]? = none := List.getElem?_eq_none (List.drop_eq_nil_iff.1 hdrop)
    rw [ends_part, Regex.ends, hnone]
    rfl
  · rw [ends_part, Regex.ends, hdrop]
    rfl

/-- What is left to match of a stack that waits for a byte is the same before and after it. -/
theorem ends_of_feed {behind ahead : List UInt8} {b : UInt8} (hdrop : h.drop i = b :: ahead)
    (hs : s.expand behind (b :: ahead) = .settled) (hne : s ≠ []) :
    s.ends h false i = ((s.feed b).map fun t => t.ends h false (i + 1)).getD [] := by
  have hahead : h.drop (i + 1) = ahead := by
    rw [← List.drop_drop, hdrop, List.drop_one, List.tail_cons]
  have hbyte : h[i]? = some b := by
    have hhead := congrArg List.head? hdrop
    rwa [List.head?_drop] at hhead
  -- What comes below a byte that was just taken.
  have hbelow : ∀ (k : Stack) (ends : List Nat), (∀ j ∈ ends, i < j) →
      (ends.flatMap fun j => Stack.ends h (decide (i < j)) k j) =
        ends.flatMap fun j => Stack.ends h false (k.map Frame.release) j := by
    intro k ends hends
    refine List.flatMap_congr fun j hj => ?_
    rw [ends_release, decide_eq_true (hends j hj)]
  rcases settled_cases hs with rfl | ⟨set, p, k, rfl⟩ | ⟨set, k, rfl⟩ | ⟨set, k, rfl⟩
  · exact absurd rfl hne
  · rw [Stack.ends, hdrop, restEnds, Stack.feed]
    cases Utf8.isContinuation b with
    | false => rfl
    | true =>
      rw [if_pos rfl, ends_await, hahead]
      rfl
  · have hends : ∀ j ∈ (Regex.byte set).ends h i, i < j := fun j hj =>
      (Regex.mem_ends_iff.1 hj).lt_of_not_nullable rfl
    rw [ends_part, hbelow k _ hends, Regex.ends, hbyte, Stack.feed]
    dsimp only
    split
    · exact List.flatMap_singleton ..
    · rfl
  · have hends : ∀ j ∈ (Regex.char set).ends h i, i < j := fun j hj =>
      (Regex.mem_ends_iff.1 hj).lt_of_not_nullable rfl
    rw [ends_part, hbelow k _ hends, Stack.feed]
    split
    · next hascii =>
      rw [Regex.ends, hdrop, Utf8.decodeFirst?, if_pos hascii]
      dsimp only
      split
      · rw [Utf8.encode_ascii (UInt8.lt_iff_toNat_lt.1 hascii)]
        exact List.flatMap_singleton ..
      · rfl
    · next hmore =>
      cases hlead : Utf8.Partial.ofLead? b with
      | none =>
        rw [Regex.ends, hdrop, Utf8.decodeFirst?, if_neg hmore, hlead]
        rfl
      | some p =>
        dsimp only
        rw [ends_await, hahead, ends_char_of_lead hdrop hmore hlead]

end Multimatch.Search
