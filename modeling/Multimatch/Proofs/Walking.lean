import Multimatch.Proofs.FirstEnds
import Multimatch.Proofs.Reading

/-!
# Walks keep their promises

Walks find what backends promise to find. A match ends within a character only if it takes nothing
there, where options and haystack keep to UTF-8; and if no expression can match nothing, no end is
left out. So the matches whose ends count are those that occur, and the search for one expression,
which goes on from place to place until an end counts, stops at the first of them.
-/
namespace Multimatch

/-- A match that occurs begins between characters, in UTF-8. -/
theorem Regex.Occurs.isBoundary {r : Regex} {h : Haystack} {i j : Nat} (ho : r.Occurs h i j)
    (hr : r.TakesCharacters) : Utf8.isBoundary (h.drop i) = true := by
  by_contra hnot
  have hempty := ho.is_match.eq_of_not_isBoundary hr (Bool.not_eq_true _ ▸ hnot)
  exact hnot (ho.between hempty)

namespace Search

variable {h : Haystack} {r : Regex} {rs : List Regex} {quits : IntervalSet} {i j : Nat}

/-! ## The preferred match -/

/-- The first of the spans is that of a preferred match. -/
theorem prefers_of_head? {first : Span} (hfirst : (spansFrom h r i).head? = some first) :
    r.Prefers h first.start first.stop := by
  induction hn : h.length + 1 - i generalizing i with
  | zero =>
    rw [spansFrom_of_lt (by omega)] at hfirst
    cases hfirst
  | succ n ih =>
    rw [spansFrom_of_le (by omega), List.head?_append, List.head?_map] at hfirst
    cases hends : (r.ends h i).head? with
    | some stop =>
      rw [hends] at hfirst
      obtain rfl := Option.some.inj hfirst
      exact hends
    | none =>
      rw [hends] at hfirst
      exact ih hfirst (by omega)

theorem start_le_of_head? {first span : Span} (hfirst : (spansFrom h r i).head? = some first)
    (hspan : span ∈ spansFrom h r i) : first.start ≤ span.start := by
  obtain ⟨first', hfirst', hle⟩ := exists_head?_of_mem hspan
  rwa [Option.some.inj (hfirst.symm.trans hfirst')]

/-- Searching from place to place, the preferred match is found of those that begin first between
characters, unless a match can take bytes and yet end within a character. -/
theorem untilBoundary_first {stop : Nat} (hi : i ≤ h.length)
    (hwhole : ∀ s e, s ≤ h.length → r.Matches h s e → Utf8.isBoundary (h.drop e) = false → s = e)
    (hok : untilBoundary (endFrom quits r) (h.take i).reverse i (h.drop i) = .ok (some stop)) :
    ∃ start, start ≤ h.length ∧ r.Prefers h start stop ∧ ∀ span ∈ spansFrom h r i,
      Utf8.isBoundary (h.drop span.start) = true → start ≤ span.start := by
  induction hn : h.length - i using Nat.strongRecOn generalizing i with
  | _ left ih =>
  rcases untilBoundary_cases hi hok with
    ⟨-, hnone⟩ | ⟨first, hfirst, ⟨-, hfound⟩ | ⟨hnot, ⟨-, hnone⟩ | ⟨hlt, hgo⟩⟩⟩
  · cases hnone
  · obtain rfl := Option.some.inj hfound
    refine ⟨first.start, (mem_spansFrom.1 (List.mem_of_head? hfirst)).2.1,
      prefers_of_head? hfirst, ?_⟩
    intro span hspan _
    exact start_le_of_head? hfirst hspan
  · cases hnone
  · obtain ⟨start, hstart, hprefers, hleast⟩ := ih _ (by omega) hlt hgo rfl
    refine ⟨start, hstart, hprefers, ?_⟩
    intro span hspan hbound
    obtain ⟨hlo, hhi, hm⟩ := mem_spansFrom.1 (List.mem_of_head? hfirst)
    have hempty := hwhole _ _ hhi hm hnot
    have hle := start_le_of_head? hfirst hspan
    have hne : span.start ≠ first.start := by
      intro heq
      rw [heq, hempty, hnot] at hbound
      cases hbound
    obtain ⟨-, hhi', hm'⟩ := mem_spansFrom.1 hspan
    exact hleast span (mem_spansFrom.2 ⟨by omega, hhi', hm'⟩) hbound

/-- The end that is found is that of a preferred match, and none that occurs begins before it. -/
theorem stopOf_first {stop : Nat} (hwhole : r.nullable = true → r.TakesCharacters ∧ Utf8.Valid h)
    (hok : stopOf quits r h = .ok (some stop)) :
    ∃ start, start ≤ h.length ∧ r.Prefers h start stop ∧ ∀ i j, r.Occurs h i j → start ≤ i := by
  unfold stopOf at hok
  split at hok
  · next hnull =>
    obtain ⟨htakes, hvalid⟩ := hwhole hnull
    obtain ⟨start, hstart, hprefers, hleast⟩ := untilBoundary_first (i := 0) (Nat.zero_le _)
      (fun _ _ _ hm hnot => hm.eq_of_not_isBoundary_stop htakes hvalid hnot) hok
    refine ⟨start, hstart, hprefers, fun i j hoccurs => ?_⟩
    exact hleast ⟨i, j⟩ (mem_spansFrom.2 ⟨Nat.zero_le i, hoccurs.le_length, hoccurs.is_match⟩)
      (hoccurs.isBoundary htakes)
  · have hhead := endFrom_eq_ok (i := 0) (Nat.zero_le _) hok
    obtain ⟨first, hfirst, rfl⟩ := Option.map_eq_some_iff.1 hhead.symm
    refine ⟨first.start, (mem_spansFrom.1 (List.mem_of_head? hfirst)).2.1,
      prefers_of_head? hfirst, fun i j hoccurs => ?_⟩
    have hspan : ⟨i, j⟩ ∈ spansFrom h r 0 :=
      mem_spansFrom.2 ⟨Nat.zero_le i, hoccurs.le_length, hoccurs.is_match⟩
    exact start_le_of_head? hfirst hspan

/-- The span that is found is the preferred one of those that occur first. -/
theorem find_first {span : Span} (hwhole : r.nullable = true → r.TakesCharacters ∧ Utf8.Valid h)
    (hok : find quits r h = .ok (some span)) :
    r.Occurs h span.start span.stop ∧ r.Prefers h span.start span.stop ∧
      ∀ i j, r.Occurs h i j → span.start ≤ i := by
  rcases find_cases hok with ⟨-, hnone⟩ | ⟨span', hstop, hfound, hstart, hm, hleast⟩
  · cases hnone
  · obtain rfl := Option.some.inj hfound
    have hoccurs : r.Occurs h span.start span.stop := by
      refine ⟨hstart, hm, fun hempty => ?_⟩
      cases hnull : r.nullable with
      | true => exact hempty ▸ (stopOf_eq_ok_some hstop).2 hnull
      | false => exact absurd hempty (Nat.ne_of_lt (hm.lt_of_not_nullable hnull))
    obtain ⟨start, hstart', hprefers, hleast'⟩ := stopOf_first hwhole hstop
    have heq : span.start = start := Nat.le_antisymm (hleast start hstart' hprefers.matches)
      (hleast' _ _ hoccurs)
    subst heq
    exact ⟨hoccurs, hprefers, hleast'⟩

/-- If a match occurs, a span is found. -/
theorem find_ne_none_of_occurs {found : Option Span}
    (hwhole : r.nullable = true → r.TakesCharacters ∧ Utf8.Valid h)
    (hok : find quits r h = .ok found) (hoccurs : r.Occurs h i j) : found ≠ none := by
  refine find_ne_none hok hoccurs.le_length hoccurs.is_match fun hnull => ?_
  obtain ⟨htakes, hvalid⟩ := hwhole hnull
  exact ⟨hoccurs.isBoundary htakes,
    fun _ _ _ hm hnot => hm.eq_of_not_isBoundary_stop htakes hvalid hnot⟩

/-! ## All matches -/

/-- The end of a match counts exactly if the match occurs. -/
theorem counts_iff_occurs (hwhole : anyNullable rs = true → r.TakesCharacters ∧ Utf8.Valid h)
    (hr : r ∈ rs) (hi : i ≤ h.length) (hm : r.Matches h i j) :
    Counts h rs j ↔ r.Occurs h i j := by
  cases hany : anyNullable rs with
  | false =>
    have hnull : r.nullable = false := by
      rw [anyNullable, List.any_eq_false] at hany
      exact Bool.not_eq_true _ ▸ hany r hr
    have hlt := hm.lt_of_not_nullable hnull
    refine iff_of_true (fun hany' => ?_) ⟨hi, hm, fun heq => absurd heq (Nat.ne_of_lt hlt)⟩
    rw [hany] at hany'
    cases hany'
  | true =>
    obtain ⟨htakes, hvalid⟩ := hwhole hany
    constructor
    · intro hcounts
      exact ⟨hi, hm, fun heq => heq ▸ hcounts hany⟩
    · intro hoccurs _
      exact hm.isBoundary htakes hvalid (hoccurs.isBoundary htakes)

/-- Expressions that have the same matches, and can match nothing alike, have the same first end
seen. -/
theorem surfaces_congr {rs' : List Regex} {e : Nat} (hnull : anyNullable rs' = anyNullable rs)
    (hfound : ∀ s e, Found h rs' s e ↔ Found h rs s e) : Surfaces h rs' e ↔ Surfaces h rs e := by
  have hends : ∀ i e, EndsFrom h rs' i e ↔ EndsFrom h rs i e := fun i e =>
    exists_congr fun s => and_congr_right fun _ => hfound s e
  exact and_congr (by rw [Counts, Counts, hnull]) (exists_congr fun i => Least.congr (hends i))

end Search

/-! ## What patterns say -/

namespace Language

variable {o : Pattern.Options} {p : String} {ps : List String} {h : Haystack} {r : Regex}
  {rs : List Regex}

theorem Clear.whole (clear : walks.Clear o [p] h) (hr : walks.read o p = some r)
    (hnull : r.nullable = true) : r.TakesCharacters ∧ Utf8.Valid h := by
  rcases clear with solid | ⟨ho, hvalid⟩
  · rw [solid p List.mem_cons_self r hr] at hnull
    cases hnull
  · exact ⟨takesCharacters_walks ho hr, hvalid⟩

/-- What each of some patterns says. -/
abbrev Reads (o : Pattern.Options) (ps : List String) (rs : List Regex) : Prop :=
  List.Forall₂ (fun p r => walks.read o p = some r) ps rs

theorem Reads.exists_mem (hrs : Reads o ps rs) (hr : r ∈ rs) :
    ∃ p ∈ ps, walks.read o p = some r := by
  obtain ⟨i, hi⟩ := List.mem_iff_getElem?.1 hr
  obtain ⟨p, hp, hread⟩ := exists_getElem?_of_forall₂ hrs hi
  exact ⟨p, List.mem_of_getElem? hp, hread⟩

theorem Reads.getElem? {i : Nat} (hrs : Reads o ps rs) (hp : ps[i]? = some p) :
    ∃ r, rs[i]? = some r ∧ walks.read o p = some r :=
  exists_getElem?_of_forall₂ hrs.flip hp

theorem Reads.not_nullable (hrs : Reads o ps rs) (solid : walks.Solid o ps) :
    Search.anyNullable rs = false := by
  rw [Search.anyNullable, List.any_eq_false]
  intro r hr
  obtain ⟨p, hp, hread⟩ := hrs.exists_mem hr
  rw [solid p hp r hread]
  exact Bool.false_ne_true

theorem Clear.whole_of_mem (clear : walks.Clear o ps h) (hrs : Reads o ps rs)
    (hany : Search.anyNullable rs = true) (hr : r ∈ rs) : r.TakesCharacters ∧ Utf8.Valid h := by
  rcases clear with solid | ⟨ho, hvalid⟩
  · rw [hrs.not_nullable solid] at hany
    cases hany
  · obtain ⟨p, -, hread⟩ := hrs.exists_mem hr
    exact ⟨takesCharacters_walks ho hread, hvalid⟩

theorem occurs_of_read {i j : Nat} (hr : walks.read o p = some r) :
    walks.Occurs o p h i j ↔ r.Occurs h i j := by
  constructor
  · rintro ⟨r', hr', hoccurs⟩
    rwa [Option.some.inj (hr.symm.trans hr')]
  · exact fun hoccurs => ⟨r, hr, hoccurs⟩

/-- A match that is found whose end counts is an occurrence of a pattern. -/
theorem Reads.exists_occurs (hrs : Reads o ps rs) (clear : walks.Clear o ps h) {i j : Nat}
    (hfound : Search.Found h rs i j) (hcounts : Search.Counts h rs j) :
    ∃ p ∈ ps, ∃ b e, walks.Occurs o p h b e := by
  obtain ⟨hi, r, hr, hm⟩ := hfound
  obtain ⟨p, hp, hread⟩ := hrs.exists_mem hr
  have hoccurs := (Search.counts_iff_occurs (fun hany => clear.whole_of_mem hrs hany hr) hr hi
    hm).1 hcounts
  exact ⟨p, hp, i, j, r, hread, hoccurs⟩

/-- The patterns that a walk finds are those that occur. -/
theorem Reads.mem_whichMatch_iff (hrs : Reads o ps rs) (clear : walks.Clear o ps h)
    {quits : IntervalSet} {n : Nat} {found : Candidates} (hn : ps.length ≤ n)
    (hok : Search.whichMatch quits rs h (.new n) = (found, .ok ())) (i : Nat) :
    i ∈ found.toList ↔ ∃ p, ps[i]? = some p ∧ ∃ b e, walks.Occurs o p h b e := by
  rw [Search.whichMatch_eq_ok hok, Candidates.toList_new, Candidates.capacity_new,
    or_iff_right List.not_mem_nil]
  constructor
  · rintro ⟨-, r, hr, b, e, hb, hm, hcounts⟩
    obtain ⟨p, hp, hread⟩ := exists_getElem?_of_forall₂ hrs hr
    have hmem := List.mem_of_getElem? hr
    have hoccurs := (Search.counts_iff_occurs (fun hany => clear.whole_of_mem hrs hany hmem) hmem
      hb hm).1 hcounts
    exact ⟨p, hp, b, e, r, hread, hoccurs⟩
  · rintro ⟨p, hp, b, e, hoccurs⟩
    obtain ⟨r, hr, hread⟩ := hrs.getElem? hp
    have hmem := List.mem_of_getElem? hr
    rw [occurs_of_read hread] at hoccurs
    have hcounts := (Search.counts_iff_occurs (fun hany => clear.whole_of_mem hrs hany hmem) hmem
      hoccurs.le_length hoccurs.is_match).2 hoccurs
    have hlt : i < ps.length := (List.getElem?_eq_some_iff.1 hp).1
    exact ⟨Nat.lt_of_lt_of_le hlt hn, r, hr, b, e, hoccurs.le_length, hoccurs.is_match, hcounts⟩

theorem Reads.found {i j : Nat} (hrs : Reads o ps rs) (hp : p ∈ ps)
    (hoccurs : walks.Occurs o p h i j) : Search.Found h rs i j := by
  obtain ⟨k, hk⟩ := List.mem_iff_getElem?.1 hp
  obtain ⟨r, hr, hread⟩ := hrs.getElem? hk
  rw [occurs_of_read hread] at hoccurs
  exact ⟨hoccurs.le_length, r, List.mem_of_getElem? hr, hoccurs.is_match⟩

theorem SameMatches.symm {L : Language} {o' : Pattern.Options} (same : L.SameMatches o o' p h) :
    L.SameMatches o' o p h := by
  intro r' r hr' hr
  obtain ⟨hmatches, hnull⟩ := same r r' hr hr'
  exact ⟨hmatches.symm, hnull.symm⟩

section Same

variable {o' : Pattern.Options} {rs' : List Regex}

theorem Reads.exists_same (hrs : Reads o ps rs) (hrs' : Reads o' ps rs')
    (same : ∀ p ∈ ps, walks.SameMatches o o' p h) (hr : r ∈ rs) :
    ∃ r' ∈ rs', r'.Matches h = r.Matches h ∧ r'.nullable = r.nullable := by
  obtain ⟨k, hk⟩ := List.mem_iff_getElem?.1 hr
  obtain ⟨p, hp, hread⟩ := exists_getElem?_of_forall₂ hrs hk
  obtain ⟨r', hr', hread'⟩ := hrs'.getElem? hp
  exact ⟨r', List.mem_of_getElem? hr', same p (List.mem_of_getElem? hp) r r' hread hread'⟩

theorem Reads.nullable_of_same (hrs : Reads o ps rs) (hrs' : Reads o' ps rs')
    (same : ∀ p ∈ ps, walks.SameMatches o o' p h) (hnull : Search.anyNullable rs = true) :
    Search.anyNullable rs' = true := by
  obtain ⟨r, hr, hnull⟩ := List.any_eq_true.1 hnull
  obtain ⟨r', hr', -, heq⟩ := hrs.exists_same hrs' same hr
  exact List.any_eq_true.2 ⟨r', hr', heq.trans hnull⟩

theorem Reads.found_of_same (hrs : Reads o ps rs) (hrs' : Reads o' ps rs')
    (same : ∀ p ∈ ps, walks.SameMatches o o' p h) {i j : Nat} (hfound : Search.Found h rs i j) :
    Search.Found h rs' i j := by
  obtain ⟨hi, r, hr, hm⟩ := hfound
  obtain ⟨r', hr', heq, -⟩ := hrs.exists_same hrs' same hr
  exact ⟨hi, r', hr', heq ▸ hm⟩

end Same

end Language

/-! ## Walks that never fail -/

namespace General

variable {h : Haystack}

theorem find_walking (r : Regex) (h : Haystack) :
    Search.find .empty r h = .ok (walking.find r h) := by
  obtain ⟨found, hfound⟩ := Search.exists_find r h
  simp only [walking, hfound]

theorem isMatch_walking (rs : List Regex) (h : Haystack) :
    walking.isMatch rs h = true ↔ ∃ e, Search.Surfaces h rs e := by
  obtain ⟨found, hfound⟩ := Search.exists_earliestEnd rs h
  rw [← Search.isSome_earliestEnd_iff hfound]
  change (Search.isMatch .empty rs h).toOption.getD false = true ↔ _
  rw [Search.isMatch, hfound]
  rfl

theorem whichMatch_walking (rs : List Regex) (h : Haystack) (buffer : Candidates) :
    Search.whichMatch .empty rs h buffer = (walking.whichMatch rs h buffer, .ok ()) :=
  Prod.ext rfl (Search.whichMatch_empty_eq_ok rs h buffer)

theorem searches_walking : walking.Searches .walks where
  find_match _ _ hone _ _ hfound := by
    have hfind := (find_walking _ _).trans (congrArg Except.ok hfound)
    obtain ⟨hstart, hm, -⟩ := Search.find_eq_ok_some hfind
    exact ⟨_, walkOne_eq_ok hone, hstart, hm⟩
  find_first _ _ hone _ _ clear hfound := by
    have hread := walkOne_eq_ok hone
    have hfind := (find_walking _ _).trans (congrArg Except.ok hfound)
    exact ⟨_, hread, Search.find_first (clear.whole hread) hfind⟩
  find_some _ _ hone _ _ _ clear hoccurs := by
    have hread := walkOne_eq_ok hone
    rw [Language.occurs_of_read hread] at hoccurs
    exact Option.ne_none_iff_exists'.1
      (Search.find_ne_none_of_occurs (clear.whole hread) (find_walking _ _) hoccurs)
  inserts hmany h buffer := by
    obtain ⟨is, hlt, heq⟩ := Search.exists_whichMatch_eq_insertAll .empty _ h buffer
    refine ⟨is, fun i hi => ?_, heq⟩
    rw [(walkMany_eq_ok hmany).length_eq]
    exact hlt i hi
  which_iff _ hmany _ _ clear hn := by
    have hrs : Language.Reads _ _ _ := walkMany_eq_ok hmany
    exact hrs.mem_whichMatch_iff clear hn (whichMatch_walking _ _ _)
  isMatch_sound _ hmany _ clear hany := by
    have hrs : Language.Reads _ _ _ := walkMany_eq_ok hmany
    obtain ⟨e, hcounts, i, ⟨s, -, hfound⟩, -⟩ := (isMatch_walking _ _).1 hany
    exact hrs.exists_occurs clear hfound hcounts
  isMatch_thorough {_ _ _ rs} _ hmany solid h p b e hp hoccurs := by
    have hrs : Language.Reads _ _ rs := walkMany_eq_ok hmany
    obtain ⟨found, hend⟩ := Search.exists_earliestEnd rs h
    refine (isMatch_walking rs h).2 ((Search.isSome_earliestEnd_iff hend).1 ?_)
    refine Option.isSome_iff_ne_none.2 fun hnone => ?_
    exact Search.earliestEnd_ne_none (hrs.not_nullable solid) (hrs.found hp hoccurs)
      (hend.trans (congrArg Except.ok hnone))
  isMatch_congr {_ _ _ _ rs rs'} _ hmany hmany' _ _ h _ same := by
    have hrs : Language.Reads _ _ rs := walkMany_eq_ok hmany
    have hrs' : Language.Reads _ _ rs' := walkMany_eq_ok hmany'
    have back := fun p hp => (same p hp).symm
    have hnull : Search.anyNullable rs' = Search.anyNullable rs :=
      Bool.eq_iff_iff.2 ⟨hrs'.nullable_of_same hrs back, hrs.nullable_of_same hrs' same⟩
    have hfound : ∀ i j, Search.Found h rs' i j ↔ Search.Found h rs i j := fun i j =>
      ⟨hrs'.found_of_same hrs back, hrs.found_of_same hrs' same⟩
    have hsurface : (∃ e, Search.Surfaces h rs' e) ↔ ∃ e, Search.Surfaces h rs e :=
      exists_congr fun e => Search.surfaces_congr hnull hfound
    exact Bool.eq_iff_iff.2
      ((isMatch_walking rs' h).trans (hsurface.trans (isMatch_walking rs h).symm))

end General

/-! ## Walks that stand for tables -/

namespace Dense

theorem eq_ok_of_answer {α β : Type} {t : Table α} {walked : Except Search.Quit β} {b : β}
    (hok : t.answer walked = .ok b) : walked = .ok b := by
  unfold Table.answer at hok
  split at hok
  · cases hok
  · cases walked with
    | error q => cases hok
    | ok b' => rw [Except.ok.inj hok]

theorem whichMatch_of_ok {t : Table (List Regex)} {h : Haystack} {buffer found : Candidates}
    (hok : walking.whichMatch t h buffer = (found, .ok ())) :
    Search.whichMatch t.quits t.content h buffer = (found, .ok ()) := by
  change (if t.startKind = .anchored then (buffer, .error (.unsupported .floating)) else
    ((Search.whichMatch t.quits t.content h buffer).1,
      t.answer (Search.whichMatch t.quits t.content h buffer).2)) = _ at hok
  split at hok
  · cases (Prod.mk.injEq .. ▸ hok).2
  · rw [Prod.mk.injEq] at hok
    exact Prod.ext hok.1 (eq_ok_of_answer hok.2)

/-- No sieve keeps walks from a match. -/
theorem searches_walking : walking.Searches .walks fun _ => True where
  find_match hone _ _ hfound := by
    obtain ⟨hstart, hm, -⟩ := Search.find_eq_ok_some (eq_ok_of_answer hfound)
    exact ⟨_, walkOne_eq_ok hone, hstart, hm⟩
  inserts {s o ps many} hmany h buffer := by
    change ∃ is : List Nat, _ ∧ (if many.startKind = .anchored then
      (buffer, .error (.unsupported .floating)) else
        ((Search.whichMatch many.quits many.content h buffer).1, many.answer _)).1 = _
    split
    · exact ⟨[], fun i hi => absurd hi List.not_mem_nil, rfl⟩
    · obtain ⟨is, hlt, heq⟩ :=
        Search.exists_whichMatch_eq_insertAll many.quits many.content h buffer
      refine ⟨is, fun i hi => ?_, heq⟩
      rw [(walkMany_eq_ok hmany).length_eq]
      exact hlt i hi
  which_iff _ hmany _ _ _ clear hn hok := by
    have hrs : Language.Reads _ _ _ := walkMany_eq_ok hmany
    exact hrs.mem_whichMatch_iff clear hn (whichMatch_of_ok hok)
  earliestEnd_sound hmany _ _ clear hok := by
    have hrs : Language.Reads _ _ _ := walkMany_eq_ok hmany
    have hsome := (Search.isSome_earliestEnd_iff (eq_ok_of_answer hok)).1 rfl
    obtain ⟨e, hcounts, i, ⟨s, -, hfound⟩, -⟩ := hsome
    exact hrs.exists_occurs clear hfound hcounts
  earliestEnd_thorough _ hmany solid _ _ _ _ hp hoccurs hok := by
    have hrs : Language.Reads _ _ _ := walkMany_eq_ok hmany
    exact Search.earliestEnd_ne_none (hrs.not_nullable solid) (hrs.found hp hoccurs)
      (eq_ok_of_answer hok)

end Dense

end Multimatch
