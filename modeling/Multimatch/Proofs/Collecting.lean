import Multimatch.Proofs.Walks

/-!
# Which expressions a walk finds

A walk over several expressions keeps the threads of each apart. At each place it puts the
expressions that have a match there into the buffer, and it stops early once the buffer is full or
nothing is left to find. `whichMatch_eq_ok` says that this comes to the expressions that match
somewhere; if one of them can match nothing, the ends of matches within a character do not count,
whichever of them they are matches of.
-/
namespace Multimatch.Search

variable {h : Haystack} {i e m : Nat} {r : Regex} {quits : IntervalSet}

/-! ## Ends still to come -/

/-- Whether a walk at a place can still find a match with a certain end. -/
def Reaches (h : Haystack) (r : Regex) (searching : Bool) (i : Nat) (threads : List Thread)
    (e : Nat) : Prop :=
  ∃ span ∈ toCome h r searching i threads, span.stop = e

section Reaches

variable {searching : Bool} {threads : List Thread}

theorem reaches_iff : Reaches h r searching i threads e ↔
    ((toCome h r searching i threads).find? (·.stop == e)).isSome = true := by
  simp only [Reaches, List.find?_isSome, beq_iff_eq]

theorem Reaches.le (hr : Reaches h r searching i threads e) : i ≤ e := by
  obtain ⟨span, hspan, rfl⟩ := hr
  rcases List.mem_append.1 hspan with hspan | hspan
  · obtain ⟨t, _, hspan⟩ := List.mem_flatMap.1 hspan
    obtain ⟨j, hj, rfl⟩ := List.mem_map.1 hspan
    exact le_of_mem_ends hj
  · split at hspan
    · obtain ⟨hlo, _, hm⟩ := mem_spansFrom.1 hspan
      exact Nat.le_trans hlo hm.le
    · cases hspan

/-- A match ends here if a thread has matched once the threads are settled. -/
theorem reaches_here (hi : i ≤ h.length) : Reaches h r searching i threads i ↔
    (settle (h.take i).reverse (h.drop i) (joined r searching i threads)).any Thread.matched =
      true := by
  rw [reaches_iff, find?_toCome (· == i) searching hi, find?_later_eq_none, Option.or_none,
    find?_spansOf_here fun t => expand_of_mem_settle, Option.isSome_map, List.find?_isSome,
    List.any_eq_true]

theorem reaches_feed {b : UInt8} (hi : i < h.length) (hdrop : h.drop i = b :: h.drop (i + 1))
    (he : e ≠ i) : Reaches h r searching i threads e ↔
      Reaches h r searching (i + 1) ((settle (h.take i).reverse (b :: h.drop (i + 1))
        (joined r searching i threads)).filterMap (Thread.feed? b)) e := by
  have hq : (i == e) = false := beq_eq_false_iff_ne.2 (Ne.symm he)
  rw [reaches_iff, reaches_iff, find?_toCome (· == e) searching (Nat.le_of_lt hi), hdrop, toCome,
    List.find?_append, find?_spansOf_feed (q := (· == e)) hdrop (fun t => expand_of_mem_settle) hq]

theorem Reaches.eq_length (hr : Reaches h r searching h.length threads e) : e = h.length := by
  by_contra hne
  have hlater : (if searching then spansFrom h r (h.length + 1) else []) = [] := by
    rw [spansFrom_of_lt (Nat.lt_succ_self _), ite_self]
  have hdrop : h.drop h.length = [] := List.drop_length
  rw [reaches_iff, find?_toCome (· == e) searching (Nat.le_refl _), hlater, List.find?_nil,
    Option.or_none, List.find?_isSome] at hr
  obtain ⟨span, hspan, heq⟩ := hr
  obtain ⟨t, ht, hspan⟩ := List.mem_flatMap.1 hspan
  rw [hdrop] at ht
  cases hm : t.matched with
  | true =>
    rw [spans_of_matched hm, List.mem_singleton] at hspan
    subst hspan
    exact hne (beq_iff_eq.1 heq).symm
  | false =>
    rw [spans_at_end hdrop (expand_of_mem_settle ht) hm] at hspan
    cases hspan

end Reaches

/-! ## Several expressions -/

section Fields

variable {rs : List Regex} {fields : List (List Thread)} {behind : List UInt8}

/-- Whether a walk can still find a match of the expression with an index. -/
def FieldReaches (h : Haystack) (rs : List Regex) (i : Nat) (fields : List (List Thread))
    (m e : Nat) : Prop :=
  ∃ r threads, rs[m]? = some r ∧ fields[m]? = some threads ∧
    Reaches h r (!allAnchored rs) i threads e

theorem settleFields_getElem? {ahead : List UInt8} {threads : List Thread} :
    (settleFields rs behind i fields ahead)[m]? = some threads ↔ ∃ r before, rs[m]? = some r ∧
      fields[m]? = some before ∧
      settle behind ahead (joined r (!allAnchored rs) i before) = threads := by
  rw [settleFields, List.getElem?_zipWith]
  cases rs[m]? <;> cases fields[m]? <;> simp

/-- The expressions marked are those that have a match which ends here. -/
theorem mem_marked_iff (hi : i ≤ h.length) :
    m ∈ Candidates.markedFrom 0
        (matchedFields (settleFields rs (h.take i).reverse i fields (h.drop i))) ↔
      FieldReaches h rs i fields m i := by
  rw [Candidates.mem_markedFrom, Nat.sub_zero, matchedFields, List.getElem?_map,
    Option.map_eq_some_iff]
  constructor
  · rintro ⟨_, threads, hthreads, hany⟩
    obtain ⟨r, before, hr, hbefore, rfl⟩ := settleFields_getElem?.1 hthreads
    exact ⟨r, before, hr, hbefore, (reaches_here hi).2 hany⟩
  · rintro ⟨r, before, hr, hbefore, hreaches⟩
    exact ⟨Nat.zero_le m, _, settleFields_getElem?.2 ⟨r, before, hr, hbefore, rfl⟩,
      (reaches_here hi).1 hreaches⟩

/-- What is still to be found is found here or is to be found after the next byte. -/
theorem exists_fieldReaches_iff {b : UInt8} (hi : i < h.length)
    (hdrop : h.drop i = b :: h.drop (i + 1)) (P : Nat → Prop) :
    (∃ e, FieldReaches h rs i fields m e ∧ P e) ↔
      (FieldReaches h rs i fields m i ∧ P i) ∨
        ∃ e, FieldReaches h rs (i + 1) (feedFields b
          (settleFields rs (h.take i).reverse i fields (b :: h.drop (i + 1)))) m e ∧ P e := by
  constructor
  · rintro ⟨e, hreaches, hP⟩
    by_cases he : e = i
    · subst he
      exact .inl ⟨hreaches, hP⟩
    · obtain ⟨r, before, hr, hbefore, hreaches⟩ := hreaches
      refine .inr ⟨e, ⟨r, _, hr, ?_, (reaches_feed hi hdrop he).1 hreaches⟩, hP⟩
      rw [feedFields, List.getElem?_map,
        settleFields_getElem?.2 ⟨r, before, hr, hbefore, rfl⟩]
      rfl
  · rintro (⟨hreaches, hP⟩ | ⟨e, ⟨r, threads, hr, hthreads, hreaches⟩, hP⟩)
    · exact ⟨i, hreaches, hP⟩
    · have he : e ≠ i := Nat.ne_of_gt hreaches.le
      rw [feedFields, List.getElem?_map, Option.map_eq_some_iff] at hthreads
      obtain ⟨_, hthreads, rfl⟩ := hthreads
      obtain ⟨r', before, hr', hbefore, rfl⟩ := settleFields_getElem?.1 hthreads
      obtain rfl := Option.some.inj (hr.symm.trans hr')
      exact ⟨e, ⟨r, before, hr, hbefore, (reaches_feed hi hdrop he).2 hreaches⟩, hP⟩

def Counts (h : Haystack) (rs : List Regex) (e : Nat) : Prop :=
  anyNullable rs = true → Utf8.isBoundary (h.drop e) = true

/-- A walk with nothing left to do has nothing to find. -/
theorem not_fieldReaches_of_exhausted {going : Bool} (hstop : exhausted rs going fields = true) :
    ¬ FieldReaches h rs i fields m e := by
  rw [exhausted, Bool.and_eq_true, Bool.and_eq_true] at hstop
  rintro ⟨r, threads, _, hthreads, span, hspan, _⟩
  have hnil : threads = [] :=
    List.isEmpty_iff.1 (List.all_eq_true.1 hstop.1.1 _ (List.mem_of_getElem? hthreads))
  rw [hnil, hstop.1.2] at hspan
  cases hspan

/-! ## One step -/

theorem lt_of_mem_marked {marks : List Bool} (hm : m ∈ Candidates.markedFrom 0 marks) :
    m < marks.length :=
  (List.getElem?_eq_some_iff.1 (Candidates.mem_markedFrom.1 hm).2).1

theorem length_matchedFields_le {ahead : List UInt8} :
    (matchedFields (settleFields rs behind i fields ahead)).length ≤ rs.length := by
  rw [matchedFields, List.length_map, settleFields, List.length_zipWith]
  exact Nat.min_le_left _ _

/-- Whether what is found at a place before some byte is put in. -/
def countsAt (rs : List Regex) (b : UInt8) (marks : List Bool) : Bool :=
  marks.contains true && !(anyNullable rs && Utf8.isContinuation b)

/-- The buffer once what is found at a place before some byte is put in. -/
def filledAt (rs : List Regex) (b : UInt8) (marks : List Bool) (c : Candidates) : Candidates :=
  if countsAt rs b marks then c.insertAll (Candidates.markedFrom 0 marks) else c

/-- What a walk does at a place before some byte: it is at its end, it is given up, what it puts in
fills the buffer, or it goes on. -/
theorem collect_cons {b : UInt8} {ahead : List UInt8} {going : Bool} {c : Candidates}
    {marks : List Bool}
    (hmarks : matchedFields (settleFields rs behind i fields (b :: ahead)) = marks) :
    collect quits rs going fields c behind i (b :: ahead) =
      if exhausted rs going fields then (c, .ok ())
      else if quits.contains b.toNat then (c, .error ⟨b, i⟩)
      else if countsAt rs b marks && (filledAt rs b marks c).isFull then
        (filledAt rs b marks c, .ok ())
      else collect quits rs (marks.contains true)
        (feedFields b (settleFields rs behind i fields (b :: ahead))) (filledAt rs b marks c)
        (b :: behind) (i + 1) ahead := by
  subst hmarks
  rfl

theorem exists_filledAt_eq (rs : List Regex) (b : UInt8) (marks : List Bool) (c : Candidates) :
    ∃ is, (∀ m ∈ is, m < marks.length) ∧ filledAt rs b marks c = c.insertAll is := by
  unfold filledAt
  split
  · exact ⟨_, fun m => lt_of_mem_marked, rfl⟩
  · exact ⟨[], fun _ hm => absurd hm List.not_mem_nil, rfl⟩

@[simp] theorem capacity_filledAt (rs : List Regex) (b : UInt8) (marks : List Bool)
    (c : Candidates) : (filledAt rs b marks c).capacity = c.capacity := by
  obtain ⟨is, -, heq⟩ := exists_filledAt_eq rs b marks c
  rw [heq, Candidates.capacity_insertAll]

theorem mem_filledAt_iff {b : UInt8} {marks : List Bool} {c : Candidates} :
    m ∈ (filledAt rs b marks c).toList ↔ m ∈ c.toList ∨ (m < c.capacity ∧
      m ∈ Candidates.markedFrom 0 marks ∧ (anyNullable rs && Utf8.isContinuation b) = false) := by
  have hany : m ∈ Candidates.markedFrom 0 marks → marks.contains true = true := fun hm =>
    List.contains_iff_mem.2 (List.mem_of_getElem? (Candidates.mem_markedFrom.1 hm).2)
  unfold filledAt countsAt
  cases anyNullable rs && Utf8.isContinuation b with
  | true => simp
  | false =>
    cases hfound : marks.contains true with
    | true =>
      rw [Bool.not_false, Bool.and_self, if_pos rfl, Candidates.mem_toList_insertAll, or_comm,
        and_comm, and_iff_left rfl]
    | false =>
      have hnone : m ∉ Candidates.markedFrom 0 marks := fun hm => by
        rw [hany hm] at hfound
        cases hfound
      simp [hnone]

/-- What a walk puts in at a place: the expressions with a match that ends here, if that counts. -/
theorem mem_filledAt_marks_iff {b : UInt8} {c : Candidates} (hi : i < h.length)
    (hdrop : h.drop i = b :: h.drop (i + 1)) :
    m ∈ (filledAt rs b (matchedFields
        (settleFields rs (h.take i).reverse i fields (b :: h.drop (i + 1)))) c).toList ↔
      m ∈ c.toList ∨ (m < c.capacity ∧ FieldReaches h rs i fields m i ∧ Counts h rs i) := by
  have hcounts : Counts h rs i ↔ (anyNullable rs && Utf8.isContinuation b) = false := by
    rw [Counts, hdrop, Utf8.isBoundary]
    cases anyNullable rs <;> simp
  rw [mem_filledAt_iff, hcounts, ← hdrop, mem_marked_iff (Nat.le_of_lt hi)]

/-! ## The whole walk -/

/-- A walk puts in the expressions it can still find a match of that counts. -/
theorem collect_eq_ok {going : Bool} {c c' : Candidates} (hi : i ≤ h.length)
    (hok : collect quits rs going fields c (h.take i).reverse i (h.drop i) = (c', .ok ())) :
    m ∈ c'.toList ↔ m ∈ c.toList ∨
      (m < c.capacity ∧ ∃ e, FieldReaches h rs i fields m e ∧ Counts h rs e) := by
  induction hn : h.length - i generalizing i going fields c with
  | zero =>
    obtain rfl : i = h.length := by omega
    have hdrop : h.drop h.length = [] := List.drop_length
    have hmarked : m ∈ Candidates.markedFrom 0 (matchedFields
        (settleFields rs (h.take h.length).reverse h.length fields [])) ↔
          FieldReaches h rs h.length fields m h.length := by
      rw [← mem_marked_iff (Nat.le_refl _), hdrop]
    rw [hdrop, collect, Prod.mk.injEq] at hok
    rw [← hok.1, Candidates.mem_toList_insertAll, hmarked, or_comm, and_comm]
    refine or_congr_right (and_congr_right fun _ => ⟨fun hr => ⟨_, hr, fun _ => ?_⟩, ?_⟩)
    · rw [hdrop]
      rfl
    · rintro ⟨e, hr, _⟩
      obtain ⟨_, _, _, _, hreaches⟩ := id hr
      rwa [hreaches.eq_length] at hr
  | succ n ih =>
    have hlt : i < h.length := by omega
    obtain ⟨b, hdrop, hbehind⟩ := drop_of_lt hlt
    rw [hdrop, collect_cons rfl, hbehind] at hok
    split at hok
    · next hstop =>
      obtain ⟨rfl, _⟩ := Prod.mk.injEq .. ▸ hok
      refine ⟨.inl, ?_⟩
      rintro (hm | ⟨_, e, hr, _⟩)
      · exact hm
      · exact absurd hr (not_fieldReaches_of_exhausted hstop)
    · rw [exists_fieldReaches_iff hlt hdrop, and_or_left, ← or_assoc,
        ← mem_filledAt_marks_iff hlt hdrop]
      split at hok
      · cases (Prod.mk.injEq .. ▸ hok).2
      · split at hok
        · next hfull =>
          obtain ⟨rfl, _⟩ := Prod.mk.injEq .. ▸ hok
          rw [Bool.and_eq_true] at hfull
          refine (or_iff_left_of_imp ?_).symm
          rintro ⟨hm, _⟩
          refine Candidates.isFull_iff.1 hfull.2 m ?_
          rwa [capacity_filledAt]
        · rw [ih hlt hok (by omega), capacity_filledAt]

/-- From a place, a walk can find all matches that begin there or later. -/
theorem fieldReaches_fieldsAt (hi : i ≤ h.length) : FieldReaches h rs i (fieldsAt rs i) m e ↔
    ∃ r, rs[m]? = some r ∧ ∃ s, i ≤ s ∧ s ≤ h.length ∧ r.Matches h s e := by
  have hbegin : ∀ r, rs[m]? = some r → toCome h r (!allAnchored rs) i
      (if allAnchored rs then [Thread.begin r i] else []) = spansFrom h r i := fun r hr =>
    toCome_begin (fun hall => List.all_eq_true.1 hall r (List.mem_of_getElem? hr)) hi
  have hfield : ∀ r, rs[m]? = some r → (fieldsAt rs i)[m]? =
      some (if allAnchored rs then [Thread.begin r i] else []) := fun r hr => by
    rw [fieldsAt, List.getElem?_map, hr]
    rfl
  constructor
  · rintro ⟨r, threads, hr, hthreads, span, hspan, rfl⟩
    obtain rfl := Option.some.inj ((hfield r hr).symm.trans hthreads)
    rw [hbegin r hr] at hspan
    exact ⟨r, hr, span.start, mem_spansFrom.1 hspan⟩
  · rintro ⟨r, hr, s, hs, hlast, hm⟩
    refine ⟨r, _, hr, hfield r hr, ⟨s, e⟩, ?_, rfl⟩
    rw [hbegin r hr]
    exact mem_spansFrom.2 ⟨hs, hlast, hm⟩

/-- A search that is not given up puts in the expressions that have a match anywhere whose end
counts. -/
theorem whichMatch_eq_ok {c c' : Candidates} (hok : whichMatch quits rs h c = (c', .ok ())) :
    m ∈ c'.toList ↔ m ∈ c.toList ∨ (m < c.capacity ∧ ∃ r, rs[m]? = some r ∧
      ∃ s e, s ≤ h.length ∧ r.Matches h s e ∧ Counts h rs e) := by
  rw [collect_eq_ok (i := 0) (Nat.zero_le _) hok]
  refine or_congr_right (and_congr_right fun _ => ?_)
  simp only [fieldReaches_fieldsAt (Nat.zero_le _)]
  constructor
  · rintro ⟨e, ⟨r, hr, s, _, hs, hm⟩, hcounts⟩
    exact ⟨r, hr, s, e, hs, hm, hcounts⟩
  · rintro ⟨r, hr, s, e, hs, hm, hcounts⟩
    exact ⟨e, ⟨r, hr, s, Nat.zero_le s, hs, hm⟩, hcounts⟩

theorem collect_empty_eq_ok {going : Bool} {c : Candidates} {ahead : List UInt8} :
    (collect .empty rs going fields c behind i ahead).2 = .ok () := by
  induction ahead generalizing going fields c behind i with
  | nil => rfl
  | cons b ahead ih =>
    rw [collect_cons rfl]
    split
    · rfl
    · split
      · cases ‹IntervalSet.empty.contains _ = true›
      · split
        · rfl
        · exact ih

/-- A search only puts indices of expressions in, whether it is given up or not. -/
theorem exists_collect_eq_insertAll {going : Bool} {c : Candidates} {ahead : List UInt8} :
    ∃ is, (∀ m ∈ is, m < rs.length) ∧
      (collect quits rs going fields c behind i ahead).1 = c.insertAll is := by
  induction ahead generalizing going fields c behind i with
  | nil =>
    exact ⟨_, fun m hm => Nat.lt_of_lt_of_le (lt_of_mem_marked hm) length_matchedFields_le, rfl⟩
  | cons b ahead ih =>
    have hnone : ∀ m ∈ ([] : List Nat), m < rs.length := fun _ hm => absurd hm List.not_mem_nil
    obtain ⟨is, hlt, his⟩ := exists_filledAt_eq rs b
      (matchedFields (settleFields rs behind i fields (b :: ahead))) c
    have hlt : ∀ m ∈ is, m < rs.length := fun m hm =>
      Nat.lt_of_lt_of_le (hlt m hm) length_matchedFields_le
    rw [collect_cons rfl]
    split
    · exact ⟨[], hnone, rfl⟩
    · split
      · exact ⟨[], hnone, rfl⟩
      · split
        · exact ⟨is, hlt, his⟩
        · obtain ⟨js, hlt', hjs⟩ := ih
          refine ⟨is ++ js, fun m hm => ?_, hjs.trans ?_⟩
          · exact (List.mem_append.1 hm).elim (hlt m) (hlt' m)
          · rw [his]
            exact (List.foldl_append ..).symm

theorem whichMatch_empty_eq_ok (rs : List Regex) (h : Haystack) (c : Candidates) :
    (whichMatch .empty rs h c).2 = .ok () :=
  collect_empty_eq_ok

theorem exists_whichMatch_eq_insertAll (quits : IntervalSet) (rs : List Regex) (h : Haystack)
    (c : Candidates) :
    ∃ is, (∀ m ∈ is, m < rs.length) ∧ (whichMatch quits rs h c).1 = c.insertAll is :=
  exists_collect_eq_insertAll

end Fields

end Multimatch.Search
