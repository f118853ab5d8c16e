import Multimatch.PatternSet.Search

/-!
# Going through the candidates

Two loops ask for the first match of each candidate: `acceptedOf` goes on to the last one, and
`anyAcceptedOf` stops at the first that the anchor accepts. The lemmas give the answers of both from
what the engine says of each candidate, for candidates in ascending order. Only a failure with no
smaller one before it shows, so failures are stated through the least index.
-/
namespace Multimatch

/-- The span is as the anchor asks in the haystack. -/
def Anchor.Covers (anchor : Anchor) (span : Span) (h : Haystack) : Prop :=
  match anchor with
  | .unanchored => True
  | .start => span.start = 0
  | .both => span.start = 0 ∧ span.stop = h.length

theorem Anchor.accepts_iff (anchor : Anchor) (span : Span) (h : Haystack) :
    anchor.accepts span h.length = true ↔ anchor.Covers span h := by
  cases anchor <;> simp [Anchor.accepts, Anchor.Covers]

/-- An index of the list stops, and all indices of the list below it pass. -/
def StopsAfter (pass stop : Nat → Prop) (indices : List Nat) : Prop :=
  ∃ c ∈ indices, stop c ∧ ∀ b ∈ indices, b < c → pass b

theorem not_stopsAfter_nil (pass stop : Nat → Prop) : ¬ StopsAfter pass stop [] := by
  rintro ⟨c, hc, _⟩
  exact absurd hc List.not_mem_nil

def StopsAt (pass stop : Nat → Prop) (indices : List Nat) (c : Nat) : Prop :=
  c ∈ indices ∧ stop c ∧ ∀ b ∈ indices, b < c → pass b

/-- In an ascending list, it is the first index that stops, or that one passes and the index is one
of the others. -/
theorem stopsAt_cons {pass stop : Nat → Prop} {i c : Nat} {rest : List Nat}
    (hasc : (i :: rest).Pairwise (· < ·)) :
    StopsAt pass stop (i :: rest) c ↔ c = i ∧ stop i ∨ pass i ∧ StopsAt pass stop rest c := by
  have hlt : ∀ c ∈ rest, i < c := fun c hc => List.rel_of_pairwise_cons hasc hc
  constructor
  · rintro ⟨hc, hstop, hpass⟩
    rcases List.mem_cons.1 hc with rfl | hc
    · exact .inl ⟨rfl, hstop⟩
    · exact .inr ⟨hpass i List.mem_cons_self (hlt c hc), hc, hstop,
        fun b hb => hpass b (List.mem_cons_of_mem i hb)⟩
  · rintro (⟨rfl, hstop⟩ | ⟨hpass, hc, hstop, hrest⟩)
    · refine ⟨List.mem_cons_self, hstop, fun b hb hlt' => ?_⟩
      rcases List.mem_cons.1 hb with rfl | hb
      · exact absurd hlt' (Nat.lt_irrefl b)
      · exact absurd (hlt b hb) (Nat.lt_asymm hlt')
    · refine ⟨List.mem_cons_of_mem i hc, hstop, fun b hb hbc => ?_⟩
      rcases List.mem_cons.1 hb with rfl | hb
      · exact hpass
      · exact hrest b hb hbc

/-- In an ascending list, the first index stops, or it passes and one of the others stops. -/
theorem stopsAfter_cons {pass stop : Nat → Prop} {i : Nat} {rest : List Nat}
    (hasc : (i :: rest).Pairwise (· < ·)) :
    StopsAfter pass stop (i :: rest) ↔ stop i ∨ pass i ∧ StopsAfter pass stop rest := by
  change (∃ c, StopsAt pass stop (i :: rest) c) ↔ _ ∨ _ ∧ ∃ c, StopsAt pass stop rest c
  simp only [stopsAt_cons hasc, exists_or, exists_and_left, exists_eq_left]

namespace PatternSet

variable {E : Engine} {s : PatternSet E} {h : Haystack}

/-- What the engine answers when it is asked for the first match of the pattern at an index, if the
set keeps the handle of that pattern. -/
def firstAt (s : PatternSet E) (h : Haystack) (i : Nat) :
    Option (Except MatchError (Option Span)) :=
  s.verifiers[i]?.map (E.findFirst · h)

def FailsWith (s : PatternSet E) (h : Haystack) (i : Nat) (e : MatchError) : Prop :=
  s.firstAt h i = some (.error e)

def Settles (s : PatternSet E) (h : Haystack) (i : Nat) : Prop :=
  ∃ first, s.firstAt h i = some (.ok first)

/-- The pattern has a first match, and it is as the anchor asks. -/
def Accepts (s : PatternSet E) (h : Haystack) (i : Nat) : Prop :=
  ∃ span, s.firstAt h i = some (.ok (some span)) ∧ s.anchor.Covers span h

/-- The pattern has no first match that is as the anchor asks, which is no failure. -/
def Rejects (s : PatternSet E) (h : Haystack) (i : Nat) : Prop :=
  ∃ first, s.firstAt h i = some (.ok first) ∧ ∀ span, first = some span → ¬ s.anchor.Covers span h

theorem Accepts.settles {i : Nat} (ha : s.Accepts h i) : s.Settles h i := by
  obtain ⟨span, hfirst, _⟩ := ha
  exact ⟨some span, hfirst⟩

theorem Rejects.settles {i : Nat} (hr : s.Rejects h i) : s.Settles h i := by
  obtain ⟨first, hfirst, _⟩ := hr
  exact ⟨first, hfirst⟩

theorem Settles.not_failsWith {i : Nat} {e : MatchError} (hs : s.Settles h i) :
    ¬ s.FailsWith h i e := by
  obtain ⟨first, hfirst⟩ := hs
  intro hfails
  rw [FailsWith, hfirst] at hfails
  cases hfails

theorem Rejects.not_accepts {i : Nat} (hr : s.Rejects h i) : ¬ s.Accepts h i := by
  obtain ⟨first, hfirst, hnot⟩ := hr
  rintro ⟨span, hspan, hcovers⟩
  rw [hfirst] at hspan
  exact hnot span (Except.ok.inj (Option.some.inj hspan)) hcovers

theorem FailsWith.inj {i : Nat} {e e' : MatchError} (he : s.FailsWith h i e)
    (he' : s.FailsWith h i e') : e = e' :=
  Except.error.inj (Option.some.inj (he.symm.trans he'))

theorem verify_cases {i : Nat} (hi : i < s.verifiers.length) :
    ∃ single, s.verifiers[i]? = some single ∧
      ((s.Accepts h i ∧ s.verify h single i = ⟨.ok true, []⟩) ∨
        (∃ first, s.firstAt h i = some (.ok first) ∧ s.Rejects h i ∧
          s.verify h single i = ⟨.ok false, [.rejected i first]⟩) ∨
        ∃ e, s.FailsWith h i e ∧ s.verify h single i = ⟨.error e, []⟩) := by
  have hget := List.getElem?_eq_getElem hi
  have hat : s.firstAt h i = some (E.findFirst s.verifiers[i] h) := by rw [firstAt, hget]; rfl
  refine ⟨s.verifiers[i], hget, ?_⟩
  unfold verify
  cases hfirst : E.findFirst s.verifiers[i] h with
  | error e => exact .inr (.inr ⟨e, by rw [FailsWith, hat, hfirst], rfl⟩)
  | ok first =>
    rw [hfirst] at hat
    dsimp only
    cases hany : first.any (s.anchor.accepts · h.length) with
    | true =>
      obtain ⟨span, rfl, haccepts⟩ := (Option.any_eq_true _ _).1 hany
      exact .inl ⟨⟨span, hat, (s.anchor.accepts_iff span h).1 haccepts⟩, by simp⟩
    | false =>
      refine .inr (.inl ⟨first, hat, ⟨first, hat, ?_⟩, by simp⟩)
      rintro span rfl hcovers
      rw [Option.any_some, (s.anchor.accepts_iff span h).2 hcovers] at hany
      cases hany

theorem acceptedOf_cons {i : Nat} (hi : i < s.verifiers.length) (rest : List Nat) :
    (s.Accepts h i ∧ s.acceptedOf h (i :: rest) =
        ⟨(s.acceptedOf h rest).answer.map (i :: ·), (s.acceptedOf h rest).events⟩) ∨
      (∃ first, s.firstAt h i = some (.ok first) ∧ s.Rejects h i ∧ s.acceptedOf h (i :: rest) =
        ⟨(s.acceptedOf h rest).answer, .rejected i first :: (s.acceptedOf h rest).events⟩) ∨
      ∃ e, s.FailsWith h i e ∧ s.acceptedOf h (i :: rest) = ⟨.error e, []⟩ := by
  obtain ⟨single, hsingle, hverify⟩ := verify_cases (h := h) hi
  rw [acceptedOf, hsingle]
  rcases hverify with ⟨ha, hv⟩ | ⟨first, hfirst, hr, hv⟩ | ⟨e, hf, hv⟩
  · exact .inl ⟨ha, by simp only [hv, ↓reduceIte, List.nil_append]⟩
  · refine .inr (.inl ⟨first, hfirst, hr, ?_⟩)
    simp only [hv, Bool.false_eq_true, ↓reduceIte, List.singleton_append]
    cases (s.acceptedOf h rest).answer <;> rfl
  · exact .inr (.inr ⟨e, hf, by simp only [hv]⟩)

theorem anyAcceptedOf_cons {i : Nat} (hi : i < s.verifiers.length) (rest : List Nat) :
    (s.Accepts h i ∧ s.anyAcceptedOf h (i :: rest) = ⟨.ok true, []⟩) ∨
      (∃ first, s.firstAt h i = some (.ok first) ∧ s.Rejects h i ∧ s.anyAcceptedOf h (i :: rest) =
        ⟨(s.anyAcceptedOf h rest).answer,
          .rejected i first :: (s.anyAcceptedOf h rest).events⟩) ∨
      ∃ e, s.FailsWith h i e ∧ s.anyAcceptedOf h (i :: rest) = ⟨.error e, []⟩ := by
  obtain ⟨single, hsingle, hverify⟩ := verify_cases (h := h) hi
  rw [anyAcceptedOf, hsingle]
  rcases hverify with ⟨ha, hv⟩ | ⟨first, hfirst, hr, hv⟩ | ⟨e, hf, hv⟩
  · exact .inl ⟨ha, by simp only [hv]⟩
  · exact .inr (.inl ⟨first, hfirst, hr, by simp only [hv, List.singleton_append]⟩)
  · exact .inr (.inr ⟨e, hf, by simp only [hv]⟩)

/-! ## Sets of which the engines say the same -/

section Congr

variable {E' : Engine} {t : PatternSet E'} {indices : List Nat}

/-- Where the engines answer alike, so do both sets keep the handle of the pattern or neither. -/
theorem verifiers_cases {i : Nat} (hfirst : s.firstAt h i = t.firstAt h i) :
    (s.verifiers[i]? = none ∧ t.verifiers[i]? = none) ∨
      ∃ single single', s.verifiers[i]? = some single ∧ t.verifiers[i]? = some single' ∧
        E.findFirst single h = E'.findFirst single' h := by
  unfold firstAt at hfirst
  cases hi : s.verifiers[i]? with
  | none =>
    rw [hi, Option.map_none, eq_comm, Option.map_eq_none_iff] at hfirst
    exact .inl ⟨rfl, hfirst⟩
  | some single =>
    rw [hi, Option.map_some, eq_comm, Option.map_eq_some_iff] at hfirst
    obtain ⟨single', hi', hsame⟩ := hfirst
    exact .inr ⟨single, single', rfl, hi', hsame.symm⟩

theorem verify_congr (hanchor : s.anchor = t.anchor) {single : E.Single} {single' : E'.Single}
    (hfirst : E.findFirst single h = E'.findFirst single' h) (i : Nat) :
    s.verify h single i = t.verify h single' i := by
  rw [verify, verify, hfirst, hanchor]

/-- The loops depend on the anchor and on what the engine says of the candidates. -/
theorem acceptedOf_congr (hanchor : s.anchor = t.anchor)
    (hfirst : ∀ i ∈ indices, s.firstAt h i = t.firstAt h i) :
    s.acceptedOf h indices = t.acceptedOf h indices := by
  induction indices with
  | nil => rfl
  | cons i rest ih =>
    obtain ⟨hhead, hrest⟩ := List.forall_mem_cons.1 hfirst
    rw [acceptedOf, acceptedOf, ih hrest]
    rcases verifiers_cases hhead with ⟨hi, hi'⟩ | ⟨single, single', hi, hi', hsame⟩
    · rw [hi, hi']
    · rw [hi, hi']
      dsimp only
      rw [verify_congr hanchor hsame]

theorem anyAcceptedOf_congr (hanchor : s.anchor = t.anchor)
    (hfirst : ∀ i ∈ indices, s.firstAt h i = t.firstAt h i) :
    s.anyAcceptedOf h indices = t.anyAcceptedOf h indices := by
  induction indices with
  | nil => rfl
  | cons i rest ih =>
    obtain ⟨hhead, hrest⟩ := List.forall_mem_cons.1 hfirst
    rw [anyAcceptedOf, anyAcceptedOf, ih hrest]
    rcases verifiers_cases hhead with ⟨hi, hi'⟩ | ⟨single, single', hi, hi', hsame⟩
    · rw [hi, hi']
    · rw [hi, hi']
      dsimp only
      rw [verify_congr hanchor hsame]

end Congr

def Holds (s : PatternSet E) (indices : List Nat) : Prop := ∀ c ∈ indices, c < s.verifiers.length

theorem Holds.head {i : Nat} {rest : List Nat} (hh : s.Holds (i :: rest)) :
    i < s.verifiers.length := hh i List.mem_cons_self

theorem Holds.tail {i : Nat} {rest : List Nat} (hh : s.Holds (i :: rest)) : s.Holds rest :=
  fun c hc => hh c (List.mem_cons_of_mem i hc)

/-- The full loop fails as the least candidate that fails does. -/
theorem acceptedOf_eq_error_iff {indices : List Nat} (hasc : indices.Pairwise (· < ·))
    (hh : s.Holds indices) {e : MatchError} :
    (s.acceptedOf h indices).answer = .error e ↔
      StopsAfter (s.Settles h) (s.FailsWith h · e) indices := by
  induction indices with
  | nil => exact ⟨fun hf => (by cases hf), fun hs => absurd hs (not_stopsAfter_nil _ _)⟩
  | cons i rest ih =>
    have ih := ih hasc.of_cons hh.tail
    rw [stopsAfter_cons hasc, ← ih]
    rcases acceptedOf_cons (h := h) hh.head rest with
      ⟨ha, heq⟩ | ⟨first, -, hr, heq⟩ | ⟨e', hf, heq⟩
    · simp only [heq, ha.settles.not_failsWith, ha.settles, false_or, true_and]
      cases (s.acceptedOf h rest).answer <;> simp [Except.map]
    · simp only [heq, hr.settles.not_failsWith, hr.settles, false_or, true_and]
    · simp only [heq, Except.error.injEq]
      constructor
      · rintro rfl
        exact .inl hf
      · rintro (he | ⟨hsettles, _⟩)
        · exact hf.inj he
        · exact absurd hf hsettles.not_failsWith

/-- If the full loop succeeds, no candidate fails, and those that the anchor accepts are kept. -/
theorem acceptedOf_eq_ok {indices kept : List Nat} (hh : s.Holds indices)
    (hok : (s.acceptedOf h indices).answer = .ok kept) :
    (∀ c ∈ indices, s.Settles h c) ∧ kept.Sublist indices ∧
      ∀ i, i ∈ kept ↔ i ∈ indices ∧ s.Accepts h i := by
  induction indices generalizing kept with
  | nil =>
    obtain rfl := Except.ok.inj hok
    exact ⟨by simp, .refl [], by simp⟩
  | cons i rest ih =>
    rcases acceptedOf_cons (h := h) hh.head rest with
      ⟨ha, heq⟩ | ⟨first, -, hr, heq⟩ | ⟨e', hf, heq⟩
    · rw [heq] at hok
      cases hrest : (s.acceptedOf h rest).answer with
      | error e => rw [hrest] at hok; cases hok
      | ok more =>
        rw [hrest] at hok
        obtain rfl := Except.ok.inj hok
        obtain ⟨hsettles, hsub, hmem⟩ := ih hh.tail hrest
        refine ⟨List.forall_mem_cons.2 ⟨ha.settles, hsettles⟩, hsub.cons_cons i, fun j => ?_⟩
        rw [List.mem_cons, List.mem_cons, hmem]
        constructor
        · rintro (rfl | ⟨hj, haj⟩)
          · exact ⟨.inl rfl, ha⟩
          · exact ⟨.inr hj, haj⟩
        · rintro ⟨rfl | hj, haj⟩
          · exact .inl rfl
          · exact .inr ⟨hj, haj⟩
    · rw [heq] at hok
      obtain ⟨hsettles, hsub, hmem⟩ := ih hh.tail hok
      refine ⟨List.forall_mem_cons.2 ⟨hr.settles, hsettles⟩, hsub.cons i, fun j => ?_⟩
      rw [List.mem_cons, hmem]
      constructor
      · rintro ⟨hj, haj⟩
        exact ⟨.inr hj, haj⟩
      · rintro ⟨rfl | hj, haj⟩
        · exact absurd haj hr.not_accepts
        · exact ⟨hj, haj⟩
    · rw [heq] at hok
      cases hok

/-- The early loop fails with a failure that comes after rejected candidates only. -/
theorem anyAcceptedOf_eq_error_iff {indices : List Nat} (hasc : indices.Pairwise (· < ·))
    (hh : s.Holds indices) {e : MatchError} :
    (s.anyAcceptedOf h indices).answer = .error e ↔
      StopsAfter (s.Rejects h) (s.FailsWith h · e) indices := by
  induction indices with
  | nil => exact ⟨fun hf => (by cases hf), fun hs => absurd hs (not_stopsAfter_nil _ _)⟩
  | cons i rest ih =>
    have ih := ih hasc.of_cons hh.tail
    rw [stopsAfter_cons hasc, ← ih]
    rcases anyAcceptedOf_cons (h := h) hh.head rest with
      ⟨ha, heq⟩ | ⟨first, -, hr, heq⟩ | ⟨e', hf, heq⟩
    · have hnot : ¬ s.Rejects h i := fun hr => hr.not_accepts ha
      simp only [heq, ha.settles.not_failsWith, hnot, false_or, false_and, reduceCtorEq]
    · simp only [heq, hr.settles.not_failsWith, hr, false_or, true_and]
    · simp only [heq, Except.error.injEq]
      constructor
      · rintro rfl
        exact .inl hf
      · rintro (he | ⟨hr, _⟩)
        · exact hf.inj he
        · exact absurd hf hr.settles.not_failsWith

/-- The early loop succeeds with a candidate that comes after rejected ones only. -/
theorem anyAcceptedOf_eq_true_iff {indices : List Nat} (hasc : indices.Pairwise (· < ·))
    (hh : s.Holds indices) :
    (s.anyAcceptedOf h indices).answer = .ok true ↔
      StopsAfter (s.Rejects h) (s.Accepts h) indices := by
  induction indices with
  | nil => exact ⟨fun hf => (by cases hf), fun hs => absurd hs (not_stopsAfter_nil _ _)⟩
  | cons i rest ih =>
    have ih := ih hasc.of_cons hh.tail
    rw [stopsAfter_cons hasc, ← ih]
    rcases anyAcceptedOf_cons (h := h) hh.head rest with
      ⟨ha, heq⟩ | ⟨first, -, hr, heq⟩ | ⟨e', hf, heq⟩
    · simp only [heq, ha, true_or]
    · simp only [heq, hr.not_accepts, hr, false_or, true_and]
    · have hnot : ¬ s.Accepts h i := fun ha => ha.settles.not_failsWith hf
      have hnot' : ¬ s.Rejects h i := fun hr => hr.settles.not_failsWith hf
      simp only [heq, hnot, hnot', false_or, false_and, reduceCtorEq]

/-- The early loop ends without success only if every candidate is rejected. -/
theorem anyAcceptedOf_eq_false_iff {indices : List Nat} (hh : s.Holds indices) :
    (s.anyAcceptedOf h indices).answer = .ok false ↔ ∀ c ∈ indices, s.Rejects h c := by
  induction indices with
  | nil => exact ⟨fun _ c hc => absurd hc List.not_mem_nil, fun _ => rfl⟩
  | cons i rest ih =>
    rw [List.forall_mem_cons, ← ih hh.tail]
    rcases anyAcceptedOf_cons (h := h) hh.head rest with
      ⟨ha, heq⟩ | ⟨first, -, hr, heq⟩ | ⟨e', hf, heq⟩
    · have hnot : ¬ s.Rejects h i := fun hr => hr.not_accepts ha
      simp only [heq, hnot, false_and, Except.ok.injEq, Bool.true_eq_false]
    · simp only [heq, hr, true_and]
    · have hnot : ¬ s.Rejects h i := fun hr => hr.settles.not_failsWith hf
      simp only [heq, hnot, false_and, reduceCtorEq]

end PatternSet

end Multimatch
