import Multimatch.Proofs.Settling
import Multimatch.Search.Walk

/-!
# What walks find

A walk that is at a place can still find the spans that its threads stand for and, if it searches,
those of all matches that begin there or later: `toCome`. This list, in order of preference, gets
shorter only by what a walk has found already, so a walk for the preferred match finds the end of
the first span (`preferredEnd_eq_ok`), and a walk to a given end finds the start of the first span
that ends there (`earliestStart_eq`).
-/
namespace Multimatch.Search

variable {h : Haystack} {i j n : Nat} {r : Regex} {quits : IntervalSet}

/-! ## Places -/

theorem drop_of_lt (hi : i < h.length) : ∃ b, h.drop i = b :: h.drop (i + 1) ∧
    b :: (h.take i).reverse = (h.take (i + 1)).reverse := by
  refine ⟨h[i], List.drop_eq_getElem_cons hi, ?_⟩
  rw [List.take_add_one, List.getElem?_eq_getElem hi, Option.toList_some, List.reverse_append,
    List.reverse_singleton, List.singleton_append]

/-! ## Spans still to come -/

/-- The spans of the matches that begin at a place or later, the preferred one first of those that
begin together. -/
def spansFrom (h : Haystack) (r : Regex) (i : Nat) : List Span :=
  (List.range' i (h.length + 1 - i)).flatMap fun s => (r.ends h s).map (⟨s, ·⟩)

theorem spansFrom_of_le (hi : i ≤ h.length) :
    spansFrom h r i = (r.ends h i).map (⟨i, ·⟩) ++ spansFrom h r (i + 1) := by
  have hcount : h.length + 1 - i = h.length + 1 - (i + 1) + 1 := by omega
  rw [spansFrom, hcount, List.range'_succ, List.flatMap_cons]
  rfl

theorem spansFrom_of_lt (hi : h.length < i) : spansFrom h r i = [] := by
  have hcount : h.length + 1 - i = 0 := by omega
  rw [spansFrom, hcount]
  rfl

theorem mem_spansFrom {span : Span} : span ∈ spansFrom h r i ↔
    i ≤ span.start ∧ span.start ≤ h.length ∧ r.Matches h span.start span.stop := by
  simp only [spansFrom, List.mem_flatMap, List.mem_range'_1, List.mem_map, Regex.mem_ends_iff]
  constructor
  · rintro ⟨s, hs, e, he, rfl⟩
    have hlast : s ≤ h.length := by omega
    exact ⟨hs.1, hlast, he⟩
  · rintro ⟨hi, hlast, hm⟩
    exact ⟨span.start, by omega, span.stop, hm, rfl⟩

/-- What a walk at a place can still find. -/
def toCome (h : Haystack) (r : Regex) (searching : Bool) (i : Nat) (threads : List Thread) :
    List Span :=
  spansOf h i threads ++ if searching then spansFrom h r i else []

theorem spans_begin : (Thread.begin r i).spans h i = (r.ends h i).map (⟨i, ·⟩) := by
  rw [Thread.spans, Thread.begin, ends_part]
  congr 1
  exact List.flatMap_singleton' _

/-- The threads of a walk stand for what it can still find from its place, but for what begins
later. -/
theorem toCome_of_le (searching : Bool) (hi : i ≤ h.length) (threads : List Thread) :
    toCome h r searching i threads = spansOf h i (joined r searching i threads) ++
      if searching then spansFrom h r (i + 1) else [] := by
  cases searching with
  | false => rfl
  | true =>
    simp only [toCome, joined, if_true]
    rw [spansFrom_of_le hi, spansOf_append, List.append_assoc, spansOf_cons, spans_begin]
    simp [spansOf]

/-- What settled threads stand for is what the threads before stood for, as far as it is asked. -/
theorem find?_toCome (q : Nat → Bool) (searching : Bool) (hi : i ≤ h.length)
    (threads : List Thread) :
    (toCome h r searching i threads).find? (q ·.stop) =
      ((spansOf h i (settle (h.take i).reverse (h.drop i) (joined r searching i threads))).find?
        (q ·.stop)).or ((if searching then spansFrom h r (i + 1) else []).find? (q ·.stop)) := by
  rw [toCome_of_le searching hi, List.find?_append, find?_spansOf_settle]

/-! ## One expression -/

/-- The first end that threads stand for is that of a thread that waits, if such a thread goes
before the first one that has matched. -/
theorem head?_spansOf (threads : List Thread) :
    (spansOf h i threads).head?.map Span.stop =
      ((spansOf h i (threads.takeWhile (!·.matched))).head?.map Span.stop).or
        (if threads.any Thread.matched then some i else none) := by
  induction threads with
  | nil => rfl
  | cons t threads ih =>
    rw [spansOf_cons, List.takeWhile_cons, List.any_cons]
    cases ht : t.matched with
    | true =>
      rw [spans_of_matched ht]
      rfl
    | false =>
      rw [Bool.not_false, if_pos rfl, Bool.false_or, spansOf_cons, List.head?_append,
        List.head?_append, Option.map_or, Option.map_or, ih, Option.or_assoc]

theorem head?_toCome {searching : Bool} {threads : List Thread} (hi : i ≤ h.length) :
    (toCome h r searching i threads).head? =
      (spansOf h i (settle (h.take i).reverse (h.drop i)
        (joined r searching i threads))).head?.or
          (if searching then spansFrom h r (i + 1) else []).head? := by
  have hall : ∀ l : List Span, l.head? = l.find? fun _ => true := fun l => by cases l <;> rfl
  rw [hall, hall, hall]
  exact find?_toCome (fun _ => true) searching hi threads

/-- The threads that a walk keeps wait for a byte. -/
theorem kept_cases {behind ahead : List UInt8} {threads : List Thread} {t : Thread}
    (ht : t ∈ (settle behind ahead threads).takeWhile (!·.matched)) :
    t.stack.expand behind ahead = .settled ∧ t.matched = false := by
  have hmem := (List.takeWhile_sublist _).subset ht
  have hnot := List.all_eq_true.1 List.all_takeWhile t ht
  exact ⟨expand_of_mem_settle hmem, Bool.not_eq_true' _ ▸ hnot⟩

/-- A walk finds the end of the first span that it can still find. -/
theorem preferredEnd_eq_ok {searching going : Bool} {threads : List Thread}
    {last found : Option Nat} (hi : i ≤ h.length)
    (hok : preferredEnd quits r searching going threads last (h.take i).reverse i (h.drop i) =
      .ok found) :
    found = ((toCome h r searching i threads).head?.map Span.stop).or last := by
  induction hn : h.length - i generalizing i searching going threads last with
  | zero =>
    have hdrop : h.drop i = [] := List.drop_eq_nil_of_le (by omega)
    have hlater : (if searching then spansFrom h r (i + 1) else []) = [] := by
      rw [spansFrom_of_lt (by omega), ite_self]
    rw [head?_toCome hi, hlater, List.head?_nil, Option.or_none, head?_spansOf]
    rw [hdrop] at hok ⊢
    rw [spansOf_at_end hdrop (fun t ht => (kept_cases ht).1) fun t ht => (kept_cases ht).2]
    rw [← Except.ok.inj hok]
    split <;> rfl
  | succ n ih =>
    obtain ⟨b, hdrop, hbehind⟩ := drop_of_lt (h := h) (i := i) (by omega)
    rw [hdrop, preferredEnd] at hok
    split at hok
    · next hstop =>
      simp only [Bool.and_eq_true, Bool.not_eq_true', List.isEmpty_iff] at hstop
      obtain ⟨⟨rfl, rfl⟩, _⟩ := hstop
      exact (Except.ok.inj hok).symm
    · split at hok
      · cases hok
      · rw [hbehind] at hok
        rw [ih (by omega) hok (by omega), toCome, head?_toCome hi, Option.map_or, head?_spansOf,
          hdrop, ← spansOf_feed hdrop (fun t ht => (kept_cases ht).1) fun t ht => (kept_cases ht).2]
        generalize settle (h.take i).reverse (b :: h.drop (i + 1))
          (joined r searching i threads) = settled
        cases settled.any Thread.matched with
        | true =>
          simp
        | false => simp [Option.map_or]

theorem exists_preferredEnd {searching going : Bool} {threads : List Thread}
    {last : Option Nat} {behind ahead : List UInt8} :
    ∃ found, preferredEnd .empty r searching going threads last behind i ahead = .ok found := by
  induction ahead generalizing searching going threads last behind i with
  | nil => exact ⟨_, rfl⟩
  | cons b ahead ih =>
    rw [preferredEnd]
    split
    · exact ⟨_, rfl⟩
    · exact ih

/-- Matches of an anchored expression begin at the start only. -/
theorem spansFrom_succ_of_anchored (hr : r.anchored = true) : spansFrom h r (i + 1) = [] := by
  rw [List.eq_nil_iff_forall_not_mem]
  intro span hspan
  obtain ⟨hlo, hhi, hm⟩ := mem_spansFrom.1 hspan
  have := hm.eq_zero_of_anchored hr hhi
  omega

/-- A walk that begins at a place can find all matches that begin there or later. If it knows that
all matches begin at the start of the text, it need not search. -/
theorem toCome_begin {anchored : Bool} (hr : anchored = true → r.anchored = true)
    (hi : i ≤ h.length) :
    toCome h r (!anchored) i (if anchored then [Thread.begin r i] else []) = spansFrom h r i := by
  cases anchored with
  | true =>
    rw [spansFrom_of_le hi, spansFrom_succ_of_anchored (hr rfl), toCome, if_pos rfl, spansOf_cons,
      spans_begin]
    simp [spansOf]
  | false => simp [toCome, spansOf]

theorem endFrom_eq_ok {found : Option Nat} (hi : i ≤ h.length)
    (hok : endFrom quits r (h.take i).reverse i (h.drop i) = .ok found) :
    found = (spansFrom h r i).head?.map Span.stop := by
  rw [preferredEnd_eq_ok hi hok, toCome_begin id hi, Option.or_none]

theorem find?_later_eq_none (h : Haystack) (r : Regex) (searching : Bool) (i : Nat) :
    (if searching then spansFrom h r (i + 1) else []).find? (·.stop == i) = none := by
  rw [List.find?_eq_none]
  intro span hspan heq
  split at hspan
  · obtain ⟨hlo, _, hm⟩ := mem_spansFrom.1 hspan
    have hle := hm.le
    rw [beq_iff_eq.1 heq] at hle
    omega
  · cases hspan

/-- The first span that ends at a place, searched for from another one on. -/
theorem earliestStart_eq (searching : Bool) (threads : List Thread) (hi : i + n ≤ h.length) :
    earliestStart r searching threads (h.take i).reverse i n (h.drop i) =
      ((toCome h r searching i threads).find? (·.stop == i + n)).map Span.start := by
  induction n generalizing i threads with
  | zero =>
    rw [Nat.add_zero, find?_toCome (· == i) searching (by omega), find?_later_eq_none, Option.or_none,
      find?_spansOf_here fun t => expand_of_mem_settle, earliestStart]
    cases (settle _ _ _).find? Thread.matched <;> rfl
  | succ n ih =>
    obtain ⟨b, hdrop, hbehind⟩ := drop_of_lt (h := h) (i := i) (by omega)
    have hplace : i + 1 + n = i + (n + 1) := by omega
    have hq : (i == i + (n + 1)) = false := beq_eq_false_iff_ne.2 (by omega)
    rw [find?_toCome (· == i + (n + 1)) searching (by omega), hdrop, earliestStart, hbehind,
      ih _ (by omega), toCome, hplace, List.find?_append,
      find?_spansOf_feed (q := (· == i + (n + 1))) hdrop (fun t => expand_of_mem_settle) hq]

/-! ## Two walks for one span -/

theorem pairwise_spansFrom (h : Haystack) (r : Regex) (i : Nat) :
    (spansFrom h r i).Pairwise (·.start ≤ ·.start) := by
  rw [spansFrom, List.pairwise_flatMap]
  constructor
  · intro s _
    rw [List.pairwise_map]
    exact List.pairwise_of_forall fun _ _ => Nat.le_refl s
  · have hascending := List.pairwise_lt_range' (s := i) (n := h.length + 1 - i)
    refine hascending.imp fun hlt span hspan span' hspan' => ?_
    obtain ⟨_, _, rfl⟩ := List.mem_map.1 hspan
    obtain ⟨_, _, rfl⟩ := List.mem_map.1 hspan'
    exact Nat.le_of_lt hlt

theorem exists_find?_of_mem {l : List Span} {q : Span → Bool} {span : Span}
    (hl : l.Pairwise (·.start ≤ ·.start)) (hspan : span ∈ l) (hq : q span = true) :
    ∃ first, l.find? q = some first ∧ first.start ≤ span.start := by
  induction l with
  | nil => cases hspan
  | cons first l ih =>
    rw [List.pairwise_cons] at hl
    rw [List.find?_cons]
    cases hfirst : q first with
    | true =>
      refine ⟨first, rfl, ?_⟩
      rcases List.mem_cons.1 hspan with rfl | hspan
      · exact Nat.le_refl _
      · exact hl.1 span hspan
    | false =>
      rcases List.mem_cons.1 hspan with rfl | hspan
      · rw [hfirst] at hq
        cases hq
      · exact ih hl.2 hspan

theorem exists_head?_of_mem {span : Span} (hspan : span ∈ spansFrom h r i) :
    ∃ first, (spansFrom h r i).head? = some first ∧ first.start ≤ span.start := by
  have hall : (spansFrom h r i).head? = (spansFrom h r i).find? fun _ => true := by
    cases spansFrom h r i <;> rfl
  rw [hall]
  exact exists_find?_of_mem (pairwise_spansFrom h r i) hspan rfl

/-- From the end of a match, the walk for its start finds the first match that ends there. -/
theorem exists_earliestStart {span : Span} (hspan : span ∈ spansFrom h r 0) :
    ∃ start, earliestStart r (!r.anchored) (if r.anchored then [Thread.begin r 0] else []) [] 0
        span.stop h = some start ∧ start ≤ span.start ∧ r.Matches h start span.stop := by
  obtain ⟨_, hhi, hm⟩ := mem_spansFrom.1 hspan
  obtain ⟨first, hfirst, hle⟩ := exists_find?_of_mem (q := (·.stop == 0 + span.stop))
    (pairwise_spansFrom h r 0) hspan (by rw [Nat.zero_add, beq_self_eq_true])
  have hend : 0 + span.stop ≤ h.length := by
    rw [Nat.zero_add]
    exact hm.le_length hhi
  have heq := earliestStart_eq (r := r) (!r.anchored)
    (if r.anchored then [Thread.begin r 0] else []) hend
  rw [toCome_begin id (Nat.zero_le _), hfirst] at heq
  have hmem := List.mem_of_find?_eq_some hfirst
  have hstop : first.stop = span.stop := by simpa using List.find?_some hfirst
  exact ⟨first.start, heq, hle, hstop ▸ (mem_spansFrom.1 hmem).2.2⟩

/-- What a search from one place after another does at a place: it ends there, or it goes on since
the end found from there is within a character. -/
theorem untilBoundary_seek_cases
    {seek : List UInt8 → Nat → List UInt8 → Except Quit (Option Nat)} {found : Option Nat}
    (hi : i ≤ h.length)
    (hle : ∀ stop, seek (h.take i).reverse i (h.drop i) = .ok (some stop) → i ≤ stop)
    (hok : untilBoundary seek (h.take i).reverse i (h.drop i) = .ok found) :
    (seek (h.take i).reverse i (h.drop i) = .ok none ∧ found = none) ∨
      ∃ stop, seek (h.take i).reverse i (h.drop i) = .ok (some stop) ∧
        ((Utf8.isBoundary (h.drop stop) = true ∧ found = some stop) ∨
          (Utf8.isBoundary (h.drop stop) = false ∧ (i = h.length ∧ found = none ∨
            i < h.length ∧ untilBoundary seek (h.take (i + 1)).reverse (i + 1)
              (h.drop (i + 1)) = .ok found))) := by
  rw [untilBoundary.eq_def] at hok
  split at hok
  · next stop hseek =>
    have hplace : (h.drop i).drop (stop - i) = h.drop stop := by
      have hstop := hle stop hseek
      rw [List.drop_drop]
      congr 1
      omega
    rw [hplace] at hok
    refine .inr ⟨stop, hseek, ?_⟩
    split at hok
    · next hstop => exact .inl ⟨hstop, (Except.ok.inj hok).symm⟩
    · next hstop =>
      refine .inr ⟨Bool.not_eq_true _ ▸ hstop, ?_⟩
      rcases Nat.lt_or_ge i h.length with hlt | hge
      · obtain ⟨b, hdrop, hbehind⟩ := drop_of_lt hlt
        rw [hdrop] at hok
        dsimp only at hok
        rw [hbehind] at hok
        exact .inr ⟨hlt, hok⟩
      · rw [List.drop_eq_nil_of_le hge] at hok
        exact .inl ⟨Nat.le_antisymm hi hge, (Except.ok.inj hok).symm⟩
  · next hseek =>
    cases found with
    | some stop => exact absurd hok (hseek stop)
    | none => exact .inl ⟨hok, rfl⟩

/-- A search for the preferred match goes on if the match found ends within a character. -/
theorem untilBoundary_cases {found : Option Nat} (hi : i ≤ h.length)
    (hok : untilBoundary (endFrom quits r) (h.take i).reverse i (h.drop i) = .ok found) :
    ((spansFrom h r i).head? = none ∧ found = none) ∨
      ∃ first, (spansFrom h r i).head? = some first ∧
        ((Utf8.isBoundary (h.drop first.stop) = true ∧ found = some first.stop) ∨
          (Utf8.isBoundary (h.drop first.stop) = false ∧ (i = h.length ∧ found = none ∨
            i < h.length ∧ untilBoundary (endFrom quits r) (h.take (i + 1)).reverse (i + 1)
              (h.drop (i + 1)) = .ok found))) := by
  have hfirst : ∀ stop, endFrom quits r (h.take i).reverse i (h.drop i) = .ok (some stop) →
      ∃ first, (spansFrom h r i).head? = some first ∧ first.stop = stop := fun stop hseek =>
    Option.map_eq_some_iff.1 (endFrom_eq_ok hi hseek).symm
  have hle : ∀ stop, endFrom quits r (h.take i).reverse i (h.drop i) = .ok (some stop) →
      i ≤ stop := by
    intro stop hseek
    obtain ⟨first, hhead, rfl⟩ := hfirst stop hseek
    obtain ⟨hlo, _, hm⟩ := mem_spansFrom.1 (List.mem_of_head? hhead)
    exact Nat.le_trans hlo hm.le
  rcases untilBoundary_seek_cases hi hle hok with ⟨hseek, hnone⟩ | ⟨stop, hseek, hrest⟩
  · exact .inl ⟨Option.map_eq_none_iff.1 (endFrom_eq_ok hi hseek).symm, hnone⟩
  · obtain ⟨first, hhead, rfl⟩ := hfirst stop hseek
    exact .inr ⟨first, hhead, hrest⟩

theorem mem_spansFrom_of_succ {span : Span} (hspan : span ∈ spansFrom h r (i + 1)) :
    span ∈ spansFrom h r i := by
  obtain ⟨hlo, hrest⟩ := mem_spansFrom.1 hspan
  exact mem_spansFrom.2 ⟨Nat.le_of_succ_le hlo, hrest⟩

/-- A search from one place after another finds the end of a match between characters. -/
theorem untilBoundary_eq_ok_some {stop : Nat} (hi : i ≤ h.length)
    (hok : untilBoundary (endFrom quits r) (h.take i).reverse i (h.drop i) = .ok (some stop)) :
    (∃ span ∈ spansFrom h r i, span.stop = stop) ∧ Utf8.isBoundary (h.drop stop) = true := by
  induction hn : h.length - i using Nat.strongRecOn generalizing i with
  | _ left ih =>
  rcases untilBoundary_cases hi hok with
    ⟨_, hnone⟩ | ⟨first, hfirst, ⟨hstop, hfound⟩ | ⟨_, ⟨_, hnone⟩ | ⟨hlt, hgo⟩⟩⟩
  · cases hnone
  · obtain rfl := Option.some.inj hfound
    exact ⟨⟨first, List.mem_of_head? hfirst, rfl⟩, hstop⟩
  · cases hnone
  · obtain ⟨⟨span, hspan, heq⟩, hstop⟩ := ih _ (by omega) hlt hgo rfl
    exact ⟨⟨span, mem_spansFrom_of_succ hspan, heq⟩, hstop⟩

/-- It finds some match if one begins between characters, unless a match can take bytes and yet end
within a character. -/
theorem untilBoundary_ne_none {found : Option Nat} {span : Span} (hi : i ≤ h.length)
    (hok : untilBoundary (endFrom quits r) (h.take i).reverse i (h.drop i) = .ok found)
    (hspan : span ∈ spansFrom h r i) (hstart : Utf8.isBoundary (h.drop span.start) = true)
    (hwhole : ∀ s e, s ≤ h.length → r.Matches h s e → Utf8.isBoundary (h.drop e) = false → s = e) :
    found ≠ none := by
  induction hn : h.length - i using Nat.strongRecOn generalizing i with
  | _ left ih =>
  obtain ⟨first, hfirst, hle⟩ := exists_head?_of_mem hspan
  obtain ⟨hlo, hhi, hm⟩ := mem_spansFrom.1 hspan
  rcases untilBoundary_cases hi hok with
    ⟨hnone, _⟩ | ⟨first', hfirst', ⟨_, hfound⟩ | ⟨hstop, hrest⟩⟩
  · rw [hfirst] at hnone
    cases hnone
  · rw [hfound]
    exact Option.some_ne_none _
  · -- The match found is empty, and it does not begin where the other one does.
    obtain rfl := Option.some.inj (hfirst.symm.trans hfirst')
    obtain ⟨hlo', hhi', hm'⟩ := mem_spansFrom.1 (List.mem_of_head? hfirst)
    have hempty := hwhole _ _ hhi' hm' hstop
    have hne : first.start ≠ span.start := fun heq => by
      rw [← hempty, heq, hstart] at hstop
      cases hstop
    rcases hrest with ⟨hlast, _⟩ | ⟨hlt, hgo⟩
    · omega
    · exact ih _ (by omega) hlt hgo (mem_spansFrom.2 ⟨by omega, hhi, hm⟩) rfl

/-- Where the preferred match ends: what the first of the two walks of `find` finds. -/
def stopOf (quits : IntervalSet) (r : Regex) (h : Haystack) : Except Quit (Option Nat) :=
  if r.nullable then untilBoundary (endFrom quits r) [] 0 h else endFrom quits r [] 0 h

theorem find_eq (quits : IntervalSet) (r : Regex) (h : Haystack) : find quits r h =
    match stopOf quits r h with
    | .error q => .error q
    | .ok none => .ok none
    | .ok (some stop) => .ok ((earliestStart r (!r.anchored)
        (if r.anchored then [Thread.begin r 0] else []) [] 0 stop h).map (Span.mk · stop)) := rfl

theorem stopOf_eq_ok_some {stop : Nat} (hok : stopOf quits r h = .ok (some stop)) :
    (∃ span ∈ spansFrom h r 0, span.stop = stop) ∧
      (r.nullable = true → Utf8.isBoundary (h.drop stop) = true) := by
  unfold stopOf at hok
  split at hok
  · obtain ⟨hspan, hstop⟩ := untilBoundary_eq_ok_some (i := 0) (Nat.zero_le _) hok
    exact ⟨hspan, fun _ => hstop⟩
  · next hr =>
    have hhead := endFrom_eq_ok (i := 0) (Nat.zero_le _) hok
    obtain ⟨first, hfirst, heq⟩ := Option.map_eq_some_iff.1 hhead.symm
    exact ⟨⟨first, List.mem_of_head? hfirst, heq⟩, fun hr' => absurd hr' hr⟩

theorem stopOf_ne_none {found : Option Nat} {span : Span} (hok : stopOf quits r h = .ok found)
    (hspan : span ∈ spansFrom h r 0)
    (hwhole : r.nullable = true → Utf8.isBoundary (h.drop span.start) = true ∧
      ∀ s e, s ≤ h.length → r.Matches h s e → Utf8.isBoundary (h.drop e) = false → s = e) :
    found ≠ none := by
  unfold stopOf at hok
  split at hok
  · next hr =>
    exact untilBoundary_ne_none (i := 0) (Nat.zero_le _) hok hspan (hwhole hr).1 (hwhole hr).2
  · obtain ⟨first, hfirst, _⟩ := exists_head?_of_mem hspan
    rw [endFrom_eq_ok (i := 0) (Nat.zero_le _) hok, hfirst]
    exact Option.some_ne_none _

/-- What the two walks find together. -/
theorem find_cases {found : Option Span} (hok : find quits r h = .ok found) :
    (stopOf quits r h = .ok none ∧ found = none) ∨
      ∃ span, stopOf quits r h = .ok (some span.stop) ∧ found = some span ∧
        span.start ≤ h.length ∧ r.Matches h span.start span.stop ∧
        ∀ s, s ≤ h.length → r.Matches h s span.stop → span.start ≤ s := by
  rw [find_eq] at hok
  split at hok
  · cases hok
  · next hstop => exact .inl ⟨hstop, (Except.ok.inj hok).symm⟩
  · next stop hstop =>
    obtain ⟨⟨span, hspan, rfl⟩, _⟩ := stopOf_eq_ok_some hstop
    obtain ⟨start, hstart, hle, hm⟩ := exists_earliestStart hspan
    rw [hstart] at hok
    refine .inr ⟨⟨start, span.stop⟩, hstop, (Except.ok.inj hok).symm, ?_, hm, fun s hs hm' => ?_⟩
    · exact Nat.le_trans hle (mem_spansFrom.1 hspan).2.1
    · have hspan' : (⟨s, span.stop⟩ : Span) ∈ spansFrom h r 0 :=
        mem_spansFrom.2 ⟨Nat.zero_le s, hs, hm'⟩
      obtain ⟨start', hstart', hle', _⟩ := exists_earliestStart hspan'
      rw [hstart] at hstart'
      obtain rfl := Option.some.inj hstart'
      exact hle'

/-- A span that is found is that of a match, it ends between characters if the expression can match
nothing, and no match that ends with it begins before it. -/
theorem find_eq_ok_some {span : Span} (hok : find quits r h = .ok (some span)) :
    span.start ≤ h.length ∧ r.Matches h span.start span.stop ∧
      (r.nullable = true → Utf8.isBoundary (h.drop span.stop) = true) ∧
      ∀ s, s ≤ h.length → r.Matches h s span.stop → span.start ≤ s := by
  rcases find_cases hok with ⟨_, hnone⟩ | ⟨span', hstop, hfound, hhi, hm, hleast⟩
  · cases hnone
  · obtain rfl := Option.some.inj hfound
    exact ⟨hhi, hm, (stopOf_eq_ok_some hstop).2, hleast⟩

/-- A search finds a span if any match ends between characters, or if no match can be empty. -/
theorem find_ne_none {found : Option Span} {i j : Nat} (hok : find quits r h = .ok found)
    (hi : i ≤ h.length) (hm : r.Matches h i j)
    (hwhole : r.nullable = true → Utf8.isBoundary (h.drop i) = true ∧
      ∀ s e, s ≤ h.length → r.Matches h s e → Utf8.isBoundary (h.drop e) = false → s = e) :
    found ≠ none := by
  have hspan : (⟨i, j⟩ : Span) ∈ spansFrom h r 0 := mem_spansFrom.2 ⟨Nat.zero_le i, hi, hm⟩
  rcases find_cases hok with ⟨hnone, _⟩ | ⟨span, _, hfound, _⟩
  · exact absurd rfl (stopOf_ne_none hnone hspan hwhole)
  · rw [hfound]
    exact Option.some_ne_none span

theorem exists_untilBoundary {seek : List UInt8 → Nat → List UInt8 → Except Quit (Option Nat)}
    (hseek : ∀ behind offset ahead, ∃ found, seek behind offset ahead = .ok found)
    (behind : List UInt8) (offset : Nat) (ahead : List UInt8) :
    ∃ found, untilBoundary seek behind offset ahead = .ok found := by
  induction ahead generalizing behind offset with
  | nil =>
    obtain ⟨found, hfound⟩ := hseek behind offset []
    rw [untilBoundary.eq_def, hfound]
    cases found with
    | none => exact ⟨none, rfl⟩
    | some stop => exact ⟨_, (apply_ite Except.ok _ _ _).symm⟩
  | cons b ahead ih =>
    obtain ⟨found, hfound⟩ := hseek behind offset (b :: ahead)
    rw [untilBoundary.eq_def, hfound]
    cases found with
    | none => exact ⟨none, rfl⟩
    | some stop =>
      dsimp only
      split
      · exact ⟨_, rfl⟩
      · exact ih (b :: behind) (offset + 1)

theorem exists_find (r : Regex) (h : Haystack) : ∃ found, find .empty r h = .ok found := by
  have hseek : ∀ behind offset ahead, ∃ found, endFrom .empty r behind offset ahead = .ok found :=
    fun _ _ _ => exists_preferredEnd
  have hstop : ∃ found, stopOf .empty r h = .ok found := by
    unfold stopOf
    split
    · exact exists_untilBoundary hseek [] 0 h
    · exact hseek [] 0 h
  obtain ⟨found, hstop⟩ := hstop
  rw [find_eq, hstop]
  cases found <;> exact ⟨_, rfl⟩

end Multimatch.Search
