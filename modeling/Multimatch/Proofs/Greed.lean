import Mathlib.Data.List.Sort
import Multimatch.Proofs.Anchoring
import Multimatch.Proofs.Existence

/-!
# What greed has no bearing on

Whether a repetition would rather go on or stop settles which of its matches a pattern prefers, not
which matches it has. So options that differ in nothing but greed make expressions that have the
same matches, and all searches agree that do not go by the end of the preferred match: those of
unanchored sets and of sets that ask for the start.
-/
namespace Multimatch

namespace Language

variable {L : Language} {o : Pattern.Options} {p : String} {h : Haystack} {r : Regex}

/-- A pattern that can be read can be read where greed is swapped, and apart from greed it says the
same. -/
theorem SwapsGreed.exists_read (swaps : L.SwapsGreed) (hr : L.read o p = some r) (swap : Bool) :
    ∃ r', L.read (o.withGreed swap) p = some r' ∧ r'.plain = r.plain := by
  have heq := swaps o p swap
  rw [hr, Option.map_some, Option.map_eq_some_iff] at heq
  exact heq

theorem SwapsGreed.sameMatches (swaps : L.SwapsGreed) (o : Pattern.Options) (p : String)
    (swap : Bool) (h : Haystack) : L.SameMatches o (o.withGreed swap) p h := by
  intro r r' hr hr'
  obtain ⟨r'', hr'', heq⟩ := swaps.exists_read hr swap
  obtain rfl := Option.some.inj (hr'.symm.trans hr'')
  constructor
  · rw [← Regex.matches_plain, heq, Regex.matches_plain]
  · rw [← Regex.nullable_plain, heq, Regex.nullable_plain]

end Language

namespace General

variable {B : Backend} {L : Language} {c c' : Config} {h : Haystack} {swap : Bool}

/-- The configuration with greed swapped or not. -/
def Config.withGreed (c : Config) (swap : Bool) : Config :=
  { c with options := c.options.withGreed swap }

section Sets

variable {s : PatternSet (engine B c)} {t : PatternSet (engine B c')} {i : Nat}

theorem ExpressionAt.exists_withGreed (swaps : L.SwapsGreed) {r : Regex} (hr : ExpressionAt L s i r)
    (hoptions : c'.options = c.options.withGreed swap) (hpatterns : t.patterns = s.patterns) :
    ∃ r', ExpressionAt L t i r' ∧ r'.Matches h = r.Matches h := by
  obtain ⟨p, hp, hread⟩ := hr
  obtain ⟨r', hread', -⟩ := swaps.exists_read hread swap
  rw [← hoptions] at hread'
  have hsame := swaps.sameMatches c.options p swap h
  rw [← hoptions] at hsame
  exact ⟨r', ⟨p, hpatterns ▸ hp, hread'⟩, (hsame r r' hread hread').1⟩

variable (searches : B.Searches L) (swaps : L.SwapsGreed) (ho : c.options.utf8 = true)
  (hvalid : Utf8.Valid h)

include searches ho hvalid in
/-- An unanchored set finds the patterns that occur. -/
theorem hits_unanchored_iff (hs : s.Consistent) (hanchor : s.anchor = .unanchored) :
    s.Hits h i ↔ ∃ r, ExpressionAt L s i r ∧ ∃ b e, r.Occurs h b e := by
  have clear : ∀ p, L.Clear c.options [p] h := fun p => .inr ⟨ho, hvalid⟩
  constructor
  · rintro ⟨p, one, span, hp, hone, hfound, -⟩
    obtain ⟨r, hread, hoccurs, -⟩ := first_of_findFirst searches hone (clear p) hfound
    exact ⟨r, ⟨p, hp, hread⟩, _, _, hoccurs⟩
  · rintro ⟨r, ⟨p, hp, hread⟩, b, e, hoccurs⟩
    obtain ⟨one, hone⟩ := hs.accepted p (List.mem_of_getElem? hp)
    obtain ⟨span, hfound⟩ := (finds_iff searches hone (clear p)).2 ⟨b, e, r, hread, hoccurs⟩
    refine ⟨p, one, span, hp, hone, hfound, ?_⟩
    rw [hanchor]
    trivial

include searches swaps ho hvalid in
theorem hits_of_withGreed (hs : s.Consistent) (ht : t.Consistent)
    (hoptions : c'.options = c.options.withGreed swap) (hpatterns : t.patterns = s.patterns)
    (hanchor : t.anchor = s.anchor) (hask : s.anchor = .unanchored ∨ s.anchor = .start)
    (hi : s.Hits h i) : t.Hits h i := by
  have ho' : c'.options.utf8 = true := by
    rw [hoptions]
    exact ho
  rcases hask with hnone | hstart
  · obtain ⟨r, hr, b, e, hoccurs⟩ := (hits_unanchored_iff searches ho hvalid hs hnone).1 hi
    obtain ⟨r', hr', heq⟩ := hr.exists_withGreed (h := h) swaps hoptions hpatterns
    refine (hits_unanchored_iff searches ho' hvalid ht (hanchor.trans hnone)).2
      ⟨r', hr', b, e, hoccurs.le_length, ?_, hoccurs.between⟩
    rw [heq]
    exact hoccurs.is_match
  · obtain ⟨r, hr, e, hm⟩ := (hits_start_iff searches ho hvalid hs hstart).1 hi
    obtain ⟨r', hr', heq⟩ := hr.exists_withGreed (h := h) swaps hoptions hpatterns
    refine (hits_start_iff searches ho' hvalid ht (hanchor.trans hstart)).2 ⟨r', hr', e, ?_⟩
    rw [heq]
    exact hm

include searches swaps ho hvalid in
theorem matchesOf_withGreed (hs : s.Consistent) (ht : t.Consistent)
    (compiled : s.isCompiled = true) (compiled' : t.isCompiled = true)
    (hoptions : c'.options = c.options.withGreed swap) (hpatterns : t.patterns = s.patterns)
    (hanchor : t.anchor = s.anchor) (hask : s.anchor = .unanchored ∨ s.anchor = .start) :
    ∃ m, (s.matchesOf h).answer = .ok m ∧ (t.matchesOf h).answer = .ok m := by
  have hoptions' : c.options = c'.options.withGreed c.options.swapGreed := by
    rw [hoptions]
    rfl
  have ho' : c'.options.utf8 = true := by
    rw [hoptions]
    exact ho
  have hask' : t.anchor = .unanchored ∨ t.anchor = .start := by rwa [hanchor]
  obtain ⟨many, scratch, hstage⟩ := PatternSet.isCompiled_iff.1 compiled
  obtain ⟨many', scratch', hstage'⟩ := PatternSet.isCompiled_iff.1 compiled'
  obtain ⟨is, hok, hasc, hmem⟩ := hs.matchesOf_of_exact (onlyInserts searches c)
    (exactOn searches ho hvalid) hstage
  obtain ⟨js, hok', hasc', hmem'⟩ := ht.matchesOf_of_exact (onlyInserts searches c')
    (exactOn searches ho' hvalid) hstage'
  have hiff : ∀ i, i ∈ is ↔ i ∈ js := by
    intro i
    rw [hmem, hmem']
    exact ⟨hits_of_withGreed searches swaps ho hvalid hs ht hoptions hpatterns hanchor hask,
      hits_of_withGreed searches swaps ho' hvalid ht hs hoptions' hpatterns.symm hanchor.symm
        hask'⟩
  obtain rfl := hasc.eq_of_mem_iff hasc' hiff
  exact ⟨⟨is⟩, hok, hok'⟩

end Sets

/-- Between engines whose configurations differ in greed alone, the answers of compiled sets of the
same patterns do not, where options and haystack keep to UTF-8: those of unanchored sets and those
of sets that ask for the start. -/
theorem greed_has_no_bearing (searches : B.Searches L) (swaps : L.SwapsGreed)
    (ho : c.options.utf8 = true) (hvalid : Utf8.Valid h) (swap : Bool) {s : PatternSet (engine B c)}
    {t : PatternSet (engine B (c.withGreed swap))} (reached : s.Reachable)
    (reached' : t.Reachable) (compiled : s.isCompiled = true) (compiled' : t.isCompiled = true)
    (hpatterns : t.patterns = s.patterns) (hanchor : t.anchor = s.anchor)
    (hask : s.anchor = .unanchored ∨ s.anchor = .start) :
    ∃ any m, (s.isMatch h).answer = .ok any ∧ (t.isMatch h).answer = .ok any ∧
      (s.matchesOf h).answer = .ok m ∧ (t.matchesOf h).answer = .ok m := by
  have hs := reached.consistent (onlyInserts searches c)
  have ht := reached'.consistent (onlyInserts searches (c.withGreed swap))
  obtain ⟨m, hall, hall'⟩ := matchesOf_withGreed searches swaps ho hvalid hs ht compiled compiled'
    rfl hpatterns hanchor hask
  rcases hask with hnone | hstart
  · have hspan := s.anchor.needsSpan_eq_false_iff.2 hnone
    have hspan' := t.anchor.needsSpan_eq_false_iff.2 (hanchor.trans hnone)
    obtain ⟨many, scratch, hstage⟩ := PatternSet.isCompiled_iff.1 compiled
    obtain ⟨many', scratch', hstage'⟩ := PatternSet.isCompiled_iff.1 compiled'
    have hmany := (hs.compiled many scratch hstage).1
    have hmany' := (ht.compiled many' scratch' hstage').1
    rw [hpatterns] at hmany'
    have hsame := searches.isMatch_congr c.combinedSettings_matchKind hmany hmany' ho ho hvalid
      fun p _ => swaps.sameMatches c.options p swap h
    refine ⟨B.isMatch many h, m, ?_, ?_, hall, hall'⟩
    · exact (PatternSet.isMatch_eq_ok_iff_of_unanchored hstage hspan).2 rfl
    · exact (PatternSet.isMatch_eq_ok_iff_of_unanchored hstage' hspan').2
        (congrArg Except.ok hsame)
  · have hspan : s.anchor.needsSpan = true := by
      rw [hstart]
      rfl
    exact ⟨m.matchedAny, m, hs.isMatch_of_matchesOf (onlyInserts searches c) hspan hall,
      ht.isMatch_of_matchesOf (onlyInserts searches _) (hanchor ▸ hspan) hall', hall, hall'⟩

/-- A set of a repetition, and of one that swaps its greed back. -/
def repetitions (swap : Bool) (anchor : Anchor) :
    PatternSet (engine walking (({} : Config).withGreed swap)) :=
  (PatternSet.new _ anchor).after [.add "a+", .add "(?-U)a+", .compile]

/-- Both sets that ask for the start find "aa" for both patterns. With greed swapped, the one that
asks for the whole haystack does not find it for the first. -/
theorem greed_has_bearing_on_whole :
    walking.Searches .walks ∧ Language.walks.SwapsGreed ∧ Utf8.Valid [0x61, 0x61] ∧
      (repetitions false .start).Reachable ∧ (repetitions true .start).Reachable ∧
      (repetitions false .start).isCompiled = true ∧ (repetitions true .start).isCompiled = true ∧
      (repetitions true .start).patterns = (repetitions false .start).patterns ∧
      (repetitions true .start).anchor = (repetitions false .start).anchor ∧
      (repetitions false .start).anchor = .start ∧
      ((repetitions false .start).matchesOf [0x61, 0x61]).answer = .ok ⟨[0, 1]⟩ ∧
      ((repetitions true .start).matchesOf [0x61, 0x61]).answer = .ok ⟨[0, 1]⟩ ∧
      ((repetitions false .both).matchesOf [0x61, 0x61]).answer = .ok ⟨[0, 1]⟩ ∧
      ((repetitions true .both).matchesOf [0x61, 0x61]).answer = .ok ⟨[1]⟩ := by
  have reached : (repetitions false .start).Reachable := (PatternSet.Reachable.new .start).after _
  have reached' : (repetitions true .start).Reachable := (PatternSet.Reachable.new .start).after _
  have compiled : (repetitions false .start).isCompiled = true := by cbv
  have compiled' : (repetitions true .start).isCompiled = true := by cbv
  have hpatterns : (repetitions true .start).patterns = (repetitions false .start).patterns := by
    cbv
  have hanchor : (repetitions true .start).anchor = (repetitions false .start).anchor := by cbv
  have hstart : (repetitions false .start).anchor = .start := by cbv
  have hvalid : Utf8.Valid [0x61, 0x61] := ⟨[0x61, 0x61], by decide, by decide⟩
  have hfound : ((repetitions false .start).matchesOf [0x61, 0x61]).answer = .ok ⟨[0, 1]⟩ := by cbv
  obtain ⟨any, m, -, -, hall, hall'⟩ := greed_has_no_bearing searches_walking
    Language.swapsGreed_walks rfl hvalid true reached reached' compiled compiled' hpatterns hanchor
    (.inr hstart)
  obtain rfl := Except.ok.inj (hfound.symm.trans hall)
  exact ⟨searches_walking, Language.swapsGreed_walks, hvalid, reached, reached', compiled,
    compiled', hpatterns, hanchor, hstart, hfound, hall', by cbv, by cbv⟩

end General

end Multimatch
