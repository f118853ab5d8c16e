import Multimatch.Proofs.Candidacy
import Multimatch.Proofs.Searching

/-!
# Any match and all matches

An unanchored set asks its engine for any match where only that is wanted, and for all matches
otherwise. These are different questions. By what backends promise, a match that is found is among
all matches if it is settled which empty matches there are, and the answers agree if no pattern can
match nothing. Otherwise the search for any match can miss one that the search for all matches
finds: walks do where an empty match within a character ends first.
-/
namespace Multimatch

theorem Matches.matchedAny_toList_iff {found : Candidates} :
    (⟨found.toList⟩ : Matches).matchedAny = true ↔ ∃ i, i ∈ found.toList := by
  rw [Matches.matchedAny, Bool.not_eq_true', List.isEmpty_eq_false_iff_exists_mem]

namespace PatternSet

section Unanchored

variable {E : Engine} {s : PatternSet E} {combined : E.Combined} {scratch : Scratch} {h : Haystack}

theorem isMatch_eq_ok_iff_of_unanchored (hstage : s.stage = .compiled combined scratch)
    (hspan : s.anchor.needsSpan = false) {any : Bool} :
    (s.isMatch h).answer = .ok any ↔ E.isMatch combined h = .ok any := by
  rw [isMatch_unanchored hstage hspan, finish_eq_ok_iff]

theorem Consistent.matchesOf_eq_ok_iff_of_unanchored (hs : s.Consistent)
    (hstage : s.stage = .compiled combined scratch) (hspan : s.anchor.needsSpan = false)
    {m : Matches} :
    (s.matchesOf h).answer = .ok m ↔ ∃ found,
      E.whichMatch combined h (.new s.size) = (found, .ok ()) ∧ m = ⟨found.toList⟩ := by
  rw [hs.matchesOf_eq hstage, finish_eq_ok_iff, foundBy_eq_ok_iff, goAll_unanchored hspan]
  constructor
  · rintro ⟨hdone, hm⟩
    exact ⟨_, Prod.ext rfl hdone, (Except.ok.inj hm).symm⟩
  · rintro ⟨found, hpass, rfl⟩
    rw [candidates, pass, hpass]
    exact ⟨rfl, rfl⟩

end Unanchored

/-- Some pattern of a set occurs. -/
def Occurs {E : Engine} (s : PatternSet E) (L : Language) (o : Pattern.Options) (h : Haystack) :
    Prop :=
  ∃ p ∈ s.patterns, ∃ b e, L.Occurs o p h b e

theorem matchedAny_iff_occurs {E : Engine} {s : PatternSet E} {L : Language} {o : Pattern.Options}
    {h : Haystack} {found : Candidates}
    (hfound : ∀ i, i ∈ found.toList ↔ ∃ p, s.patterns[i]? = some p ∧ ∃ b e, L.Occurs o p h b e) :
    (⟨found.toList⟩ : Matches).matchedAny = true ↔ s.Occurs L o h := by
  rw [Matches.matchedAny_toList_iff]
  simp only [hfound, Occurs, List.mem_iff_getElem?]
  grind

section General

variable {B : General.Backend} {L : Language} (searches : B.Searches L) {c : General.Config}
  {s : PatternSet (General.engine B c)} {many : B.Many} {scratch : Scratch} {h : Haystack}

include searches in
theorem Consistent.general_matchedAny_iff (hs : s.Consistent)
    (hstage : s.stage = .compiled many scratch) (clear : L.Clear c.options s.patterns h) :
    (⟨(B.whichMatch many h (.new s.size)).toList⟩ : Matches).matchedAny = true ↔
      s.Occurs L c.options h :=
  matchedAny_iff_occurs (searches.which_iff c.combinedSettings_matchKind
    (hs.compiled many scratch hstage).1 clear (Nat.le_refl s.size))

include searches in
theorem Consistent.general_isMatch_iff (hs : s.Consistent)
    (hstage : s.stage = .compiled many scratch) (solid : L.Solid c.options s.patterns) :
    B.isMatch many h = true ↔ s.Occurs L c.options h := by
  have hmany := (hs.compiled many scratch hstage).1
  constructor
  · exact searches.isMatch_sound c.combinedSettings_matchKind hmany (.inl solid)
  · rintro ⟨p, hp, b, e, hoccurs⟩
    exact searches.isMatch_thorough c.combinedSettings_matchKind hmany solid hp hoccurs

end General

section Dense

variable {B : Dense.Backend} {L : Language} {sievesNone : B.Settings → Prop}
  (searches : B.Searches L sievesNone) {c : Dense.Config B}
  {s : PatternSet (Dense.engine B c)} {many : B.Many} {scratch : Scratch} {h : Haystack}

include searches in
theorem Consistent.dense_matchedAny_iff (hs : s.Consistent)
    (hstage : s.stage = .compiled many scratch) (thorough : sievesNone c.settings)
    (clear : L.Clear c.options s.patterns h) {found : Candidates}
    (hfound : B.whichMatch many h (.new s.size) = (found, .ok ())) :
    (⟨found.toList⟩ : Matches).matchedAny = true ↔ s.Occurs L c.options h :=
  matchedAny_iff_occurs (searches.which_iff thorough (hs.compiled many scratch hstage).1 clear
    (Nat.le_refl s.size) hfound)

include searches in
theorem Consistent.dense_isMatch_iff (hs : s.Consistent)
    (hstage : s.stage = .compiled many scratch) (thorough : sievesNone c.settings)
    (solid : L.Solid c.options s.patterns) {first : Option Nat}
    (hfirst : B.earliestEnd many h = .ok first) :
    first.isSome = true ↔ s.Occurs L c.options h := by
  have hmany := (hs.compiled many scratch hstage).1
  constructor
  · intro hsome
    obtain ⟨stop, rfl⟩ := Option.isSome_iff_exists.1 hsome
    exact searches.earliestEnd_sound hmany (.inl solid) hfirst
  · rintro ⟨p, hp, b, e, hoccurs⟩
    have hne := searches.earliestEnd_thorough thorough hmany solid hp hoccurs
    refine Option.isSome_iff_ne_none.2 fun hnone => ?_
    exact hne (hfirst.trans (congrArg Except.ok hnone))

end Dense

/-- The engine without tables answers both searches of an unanchored set, and tables may. With
either, any match that is found is among all matches if it is settled which empty matches there are,
and the answers agree if no pattern can match nothing; of tables with a sieve that is not said. -/
theorem any_agrees_with_all {L : Language} {B : General.Backend} (searches : B.Searches L)
    {T : Dense.Backend} {sievesNone : T.Settings → Prop} (searches' : T.Searches L sievesNone)
    (h : Haystack) :
    (∀ (c : General.Config) (s : PatternSet (General.engine B c)), s.Reachable →
      s.isCompiled = true → s.anchor = .unanchored → ∃ any m,
        (s.isMatch h).answer = .ok any ∧ (s.matchesOf h).answer = .ok m ∧
        (L.Clear c.options s.patterns h → any = true → m.matchedAny = true) ∧
        (L.Solid c.options s.patterns → any = m.matchedAny)) ∧
      ∀ (c : Dense.Config T) (s : PatternSet (Dense.engine T c)), s.Reachable →
        s.isCompiled = true → s.anchor = .unanchored → sievesNone c.settings → ∀ any m,
          (s.isMatch h).answer = .ok any → (s.matchesOf h).answer = .ok m →
          (L.Clear c.options s.patterns h → any = true → m.matchedAny = true) ∧
          (L.Solid c.options s.patterns → any = m.matchedAny) := by
  constructor
  · intro c s reached compiled hanchor
    have hs := reached.consistent (General.onlyInserts searches c)
    have hspan := s.anchor.needsSpan_eq_false_iff.2 hanchor
    obtain ⟨many, scratch, hstage⟩ := isCompiled_iff.1 compiled
    refine ⟨B.isMatch many h, _, (isMatch_eq_ok_iff_of_unanchored hstage hspan).2 rfl,
      (hs.matchesOf_eq_ok_iff_of_unanchored hstage hspan).2 ⟨_, rfl, rfl⟩, ?_, ?_⟩
    · intro clear hany
      have hmany := (hs.compiled many scratch hstage).1
      exact (hs.general_matchedAny_iff searches hstage clear).2
        (searches.isMatch_sound c.combinedSettings_matchKind hmany clear hany)
    · intro solid
      rw [Bool.eq_iff_iff, hs.general_matchedAny_iff searches hstage (.inl solid)]
      exact hs.general_isMatch_iff searches hstage solid
  · intro c s reached compiled hanchor thorough any m hany hall
    have hs := reached.consistent (Dense.onlyInserts searches' c)
    have hspan := s.anchor.needsSpan_eq_false_iff.2 hanchor
    obtain ⟨many, scratch, hstage⟩ := isCompiled_iff.1 compiled
    obtain ⟨found, hfound, rfl⟩ := (hs.matchesOf_eq_ok_iff_of_unanchored hstage hspan).1 hall
    obtain ⟨first, hfirst, rfl⟩ :=
      exists_of_map_eq_ok ((isMatch_eq_ok_iff_of_unanchored hstage hspan).1 hany)
    constructor
    · intro clear hsome
      obtain ⟨stop, rfl⟩ := Option.isSome_iff_exists.1 hsome
      have hmany := (hs.compiled many scratch hstage).1
      exact (hs.dense_matchedAny_iff searches' hstage thorough clear hfound).2
        (searches'.earliestEnd_sound hmany clear hfirst)
    · intro solid
      rw [Bool.eq_iff_iff, hs.dense_matchedAny_iff searches' hstage thorough (.inl solid) hfound]
      exact hs.dense_isMatch_iff searches' hstage thorough solid hfirst

/-! ## Walks -/

def lettersSet (E : Engine) : PatternSet E :=
  (new E .unanchored).after [.add "a", .add "b", .compile]

/-- Neither letter can match nothing, so both searches tell of "b". -/
theorem letters_agree :
    General.walking.Searches .walks ∧ Dense.walking.Searches .walks (fun _ => True) ∧
      (lettersSet (General.engine General.walking {})).Reachable ∧
      (lettersSet (General.engine General.walking {})).isCompiled = true ∧
      (lettersSet (General.engine General.walking {})).anchor = .unanchored ∧
      Language.walks.Solid {} (lettersSet (General.engine General.walking {})).patterns ∧
      ∃ m, ((lettersSet (General.engine General.walking {})).isMatch [0x71, 0x62]).answer =
          .ok true ∧
        ((lettersSet (General.engine General.walking {})).matchesOf [0x71, 0x62]).answer = .ok m ∧
        m.matchedAny = true := by
  have reached : (lettersSet (General.engine General.walking {})).Reachable :=
    (Reachable.new .unanchored).after _
  have compiled : (lettersSet (General.engine General.walking {})).isCompiled = true := by cbv
  have hanchor : (lettersSet (General.engine General.walking {})).anchor = .unanchored := by cbv
  have hpatterns : (lettersSet (General.engine General.walking {})).patterns = ["a", "b"] := by cbv
  have hread : Language.walks.read {} "a" = some (.char (.singleton 0x61)) ∧
      Language.walks.read {} "b" = some (.char (.singleton 0x62)) := ⟨by cbv, by cbv⟩
  have solid :
      Language.walks.Solid {} (lettersSet (General.engine General.walking {})).patterns := by
    rw [hpatterns, Language.Solid, List.forall_mem_cons, List.forall_mem_singleton, hread.1,
      hread.2]
    constructor <;> (rintro r ⟨⟩; rfl)
  have hfound : ((lettersSet (General.engine General.walking {})).isMatch [0x71, 0x62]).answer =
      .ok true := by cbv
  obtain ⟨hgeneral, -⟩ :=
    any_agrees_with_all General.searches_walking Dense.searches_walking [0x71, 0x62]
  obtain ⟨any, m, hany, hall, -, hagree⟩ := hgeneral {} _ reached compiled hanchor
  obtain rfl := Except.ok.inj (hfound.symm.trans hany)
  exact ⟨General.searches_walking, Dense.searches_walking, reached, compiled, hanchor, solid, m,
    hfound, hall, (hagree solid).symm⟩

/-- The expression that matches nothing where there is no edge of an ASCII word. -/
def noEdge : Regex := .look (.word false .inside)

/-- The expression of the pattern that is the letter "é". -/
def letterE : Regex := .char (.singleton 0xE9)

def edgelessSet (E : Engine) : PatternSet E :=
  (new E .unanchored).after [.add "(?-u:\\B)", .add "é", .compile]

/-- No byte of "é" is part of an ASCII word, so in "aéa" there is no edge within it. That empty
match ends before the letter does, again and again until a search begins behind the start of the
letter. So walks find the letter among all matches, yet they do not find any match. -/
theorem not_any_eq_matchedAny :
    ¬ ∀ (c : General.Config) (s : PatternSet (General.engine General.walking c)), s.Reachable →
      s.isCompiled = true → s.anchor = .unanchored → ∀ h, ∃ any m,
        (s.isMatch h).answer = .ok any ∧ (s.matchesOf h).answer = .ok m ∧ any = m.matchedAny := by
  intro hagree
  have reached : (edgelessSet (General.engine General.walking {})).Reachable :=
    (Reachable.new .unanchored).after _
  have hstage : (edgelessSet (General.engine General.walking {})).stage =
      .compiled [noEdge, letterE] (.new 2) := by cbv
  have hpatterns : (edgelessSet (General.engine General.walking {})).patterns =
      ["(?-u:\\B)", "é"] := by cbv
  have hspan : (edgelessSet (General.engine General.walking {})).anchor.needsSpan = false := by cbv
  have hs := reached.consistent (General.onlyInserts General.searches_walking {})
  have clear : Language.walks.Clear {} (edgelessSet (General.engine General.walking {})).patterns
      [0x61, 0xC3, 0xA9, 0x61] := .inr ⟨rfl, [0x61, 0xE9, 0x61], by decide, by decide⟩
  have hletter : letterE.Matches [0x61, 0xC3, 0xA9, 0x61] 1 3 := by decide +kernel
  have hoccurs : (edgelessSet (General.engine General.walking {})).Occurs .walks {}
      [0x61, 0xC3, 0xA9, 0x61] := by
    refine ⟨"é", ?_, 1, 3, letterE, by cbv, by decide, hletter,
      fun heq => absurd heq (by decide)⟩
    rw [hpatterns]
    exact List.mem_cons_of_mem _ List.mem_cons_self
  have hnone : General.walking.isMatch [noEdge, letterE] [0x61, 0xC3, 0xA9, 0x61] = false := by cbv
  have hmatched := (hs.general_matchedAny_iff General.searches_walking hstage clear).2 hoccurs
  obtain ⟨any, m, hany, hall, heq⟩ :=
    hagree {} _ reached (by cbv) (by cbv) [0x61, 0xC3, 0xA9, 0x61]
  obtain ⟨found, hfound, rfl⟩ := (hs.matchesOf_eq_ok_iff_of_unanchored hstage hspan).1 hall
  obtain rfl := (Prod.mk.injEq .. ▸ hfound).1
  obtain rfl := Except.ok.inj ((isMatch_eq_ok_iff_of_unanchored hstage hspan).1 hany)
  rw [hmatched, hnone] at heq
  cases heq

end PatternSet

end Multimatch
