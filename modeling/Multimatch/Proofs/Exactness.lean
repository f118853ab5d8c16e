import Multimatch.Proofs.Agreement
import Multimatch.Proofs.Answers

/-!
# Searches are exact

Over an exact engine, a set finds the patterns whose own first match is where the anchor asks for
it: no other ones, none twice, and each under the number of patterns that were added before it. A
pattern that the engine refuses takes no number. The engine is any that is exact; a first match may
have any span.
-/
namespace Multimatch

/-- The engine compiles the pattern alone. -/
def Engine.compilesAlone (E : Engine) (p : String) : Bool := (E.compileSingle p).isOk

namespace PatternSet

variable {E : Engine} {s : PatternSet E} {combined : E.Combined} {scratch : Scratch} {h : Haystack}

/-! ## Building -/

theorem add_building (hstage : s.stage = .building) (p : String) :
    (s.add p).set.stage = .building ∧ (s.add p).set.anchor = s.anchor ∧
      (s.add p).set.patterns = s.patterns ++ [p].filter E.compilesAlone := by
  rcases add_cases s p with ⟨hnot, _⟩ | ⟨_, source, hp, heq⟩ | ⟨_, single, hp, heq⟩
  · exact absurd hstage hnot
  · have halone : E.compilesAlone p ≠ true := by rw [Engine.compilesAlone, hp]; exact nofun
    rw [heq, List.filter_cons_of_neg halone, List.filter_nil, List.append_nil]
    exact ⟨hstage, rfl, rfl⟩
  · have halone : E.compilesAlone p = true := by rw [Engine.compilesAlone, hp]; rfl
    rw [heq, List.filter_cons_of_pos halone, List.filter_nil]
    exact ⟨hstage, rfl, rfl⟩

/-- Adding patterns appends those that compile, in order. -/
theorem after_adds (hstage : s.stage = .building) (ps : List String) :
    (s.after (ps.map .add)).stage = .building ∧ (s.after (ps.map .add)).anchor = s.anchor ∧
      (s.after (ps.map .add)).patterns = s.patterns ++ ps.filter E.compilesAlone := by
  induction ps generalizing s with
  | nil => exact ⟨hstage, rfl, by rw [List.filter_nil, List.append_nil]; rfl⟩
  | cons p ps ih =>
    obtain ⟨hstage', hanchor, hpatterns⟩ := add_building hstage p
    obtain ⟨hlast, hanchor', hpatterns'⟩ := ih hstage'
    refine ⟨hlast, hanchor'.trans hanchor, hpatterns'.trans ?_⟩
    rw [hpatterns, List.append_assoc, ← List.filter_append]
    rfl

/-- A successful compilation keeps the anchor and the patterns. -/
theorem compile_eq_ok (hok : s.compile.answer = .ok ()) :
    s.compile.set.isCompiled = true ∧ s.compile.set.anchor = s.anchor ∧
      s.compile.set.patterns = s.patterns := by
  rcases compile_cases s with ⟨_, heq⟩ | ⟨_, source, _, heq⟩ | ⟨_, combined, _, heq⟩
  · rw [heq] at hok
    cases hok
  · rw [heq] at hok
    cases hok
  · rw [heq]
    exact ⟨rfl, rfl, rfl⟩

/-! ## Searching -/

/-- The first match of the pattern at an index, by its own handle, is as the anchor asks. -/
def Hits (s : PatternSet E) (h : Haystack) (i : Nat) : Prop :=
  ∃ p single span, s.patterns[i]? = some p ∧ E.compileSingle p = .ok single ∧
    E.findFirst single h = .ok (some span) ∧ s.anchor.Covers span h

theorem hits_iff {singles : List E.Single} (hs : E.Handles s.patterns singles) {i : Nat} :
    s.Hits h i ↔ ∃ single span, singles[i]? = some single ∧
      E.findFirst single h = .ok (some span) ∧ s.anchor.Covers span h := by
  constructor
  · rintro ⟨p, single, span, hp, hsingle, hfound⟩
    exact ⟨single, span, hs.getElem?_eq_some_iff.2 ⟨p, hp, hsingle⟩, hfound⟩
  · rintro ⟨single, span, hi, hfound⟩
    obtain ⟨p, hp, hsingle⟩ := hs.getElem?_eq_some_iff.1 hi
    exact ⟨p, single, span, hp, hsingle, hfound⟩

theorem accepts_iff_of_verifiers {singles : List E.Single} (hv : s.verifiers = singles) {i : Nat} :
    s.Accepts h i ↔ ∃ single span, singles[i]? = some single ∧
      E.findFirst single h = .ok (some span) ∧ s.anchor.Covers span h := by
  simp only [Accepts, firstAt, hv, Option.map_eq_some_iff]
  constructor
  · rintro ⟨span, ⟨single, hi, hfound⟩, hcovers⟩
    exact ⟨single, span, hi, hfound, hcovers⟩
  · rintro ⟨single, span, hi, hfound, hcovers⟩
    exact ⟨span, ⟨single, hi, hfound⟩, hcovers⟩

/-- No pattern that has a handle fails. -/
theorem not_failsWith_of_exact (exact : E.ExactOn h) {singles : List E.Single}
    (hs : E.Handles s.patterns singles) (hv : s.verifiers = singles) (i : Nat) (e : MatchError) :
    ¬ s.FailsWith h i e := by
  intro hfails
  rw [FailsWith, firstAt, hv] at hfails
  obtain ⟨single, hi, hfound⟩ := Option.map_eq_some_iff.1 hfails
  obtain ⟨p, _, hsingle⟩ := hs.getElem?_eq_some_iff.1 hi
  obtain ⟨first, hfirst⟩ := exact.first_found p single hsingle
  rw [hfirst] at hfound
  cases hfound

section Compiled

variable {singles : List E.Single}

/-- The combined matcher inserts the patterns that match alone. -/
theorem pass_of_exact (exact : E.ExactOn h) (hc : E.Compiles s.patterns singles combined) :
    (s.pass combined h).2 = .ok () ∧
      ∀ i, i ∈ s.candidates combined h ↔
        ∃ single, singles[i]? = some single ∧ E.Finds single h := by
  obtain ⟨indices, hwhich, hmem⟩ := exact.inserts_found s.patterns singles combined hc
  have hpass : s.pass combined h = ((Candidates.new s.size).insertAll indices, .ok ()) := hwhich
  refine ⟨by rw [hpass], fun i => ?_⟩
  rw [← hmem i]
  refine mem_candidates hpass fun j hj => ?_
  obtain ⟨single, hsingle, _⟩ := (hmem j).1 hj
  rw [size, hc.alone.length_eq]
  exact (List.getElem?_eq_some_iff.1 hsingle).1

theorem hits_iff_candidate (exact : E.ExactOn h) (hc : E.Compiles s.patterns singles combined)
    (hv : s.anchor.needsSpan = true → s.verifiers = singles) (i : Nat) :
    i ∈ s.candidates combined h ∧ (s.anchor = .unanchored ∨ s.Accepts h i) ↔ s.Hits h i := by
  rw [(pass_of_exact exact hc).2, hits_iff hc.alone]
  cases hspan : s.anchor.needsSpan with
  | false =>
    have hanchor := s.anchor.needsSpan_eq_false_iff.1 hspan
    simp only [hanchor, true_or, and_true, Anchor.Covers, Engine.Finds, exists_and_left]
  | true =>
    have hanchor := s.anchor.needsSpan_iff.1 hspan
    rw [accepts_iff_of_verifiers (hv hspan)]
    constructor
    · rintro ⟨_, hun | hhit⟩
      · exact absurd hun hanchor
      · exact hhit
    · rintro ⟨single, span, hi, hfound, hcovers⟩
      exact ⟨⟨single, hi, span, hfound⟩, .inr ⟨single, span, hi, hfound, hcovers⟩⟩

end Compiled

theorem Consistent.matchesOf_of_exact (hs : s.Consistent) (inserts : E.OnlyInserts)
    (exact : E.ExactOn h) (hstage : s.stage = .compiled combined scratch) :
    ∃ is, (s.matchesOf h).answer = .ok ⟨is⟩ ∧ is.Pairwise (· < ·) ∧ ∀ i, i ∈ is ↔ s.Hits h i := by
  obtain ⟨singles, hc, hv⟩ := hs.compiles hstage
  cases hanswer : (s.matchesOf h).answer with
  | error error =>
    obtain ⟨e, -, hpass | ⟨-, hanchor, c, _, hfails, _⟩⟩ :=
      (hs.matchesOf_eq_error_iff inserts hstage).1 hanswer
    · rw [(pass_of_exact exact hc).1] at hpass
      cases hpass
    · have hverifiers := hv (s.anchor.needsSpan_iff.2 hanchor)
      exact absurd hfails (not_failsWith_of_exact exact hc.alone hverifiers c e)
  | ok m =>
    obtain ⟨_, hasc, hmem⟩ := hs.matchesOf_eq_ok inserts hstage hanswer
    exact ⟨m.indices, rfl, hasc, fun i => by rw [hmem, hits_iff_candidate exact hc hv]⟩

theorem Consistent.isMatch_of_exact (hs : s.Consistent) (exact : E.Exact)
    (hstage : s.stage = .compiled combined scratch) {is : List Nat}
    (hok : (s.matchesOf h).answer = .ok ⟨is⟩) (hmem : ∀ i, i ∈ is ↔ s.Hits h i) :
    (s.isMatch h).answer = .ok (!is.isEmpty) := by
  cases hspan : s.anchor.needsSpan with
  | true => exact hs.isMatch_of_matchesOf exact.onlyInserts hspan hok
  | false =>
    obtain ⟨singles, hc, hv⟩ := hs.compiles hstage
    obtain ⟨any, hany, hfinds⟩ := exact.any_found s.patterns singles combined hc h
    have hanchor := s.anchor.needsSpan_eq_false_iff.1 hspan
    have hiff : any = true ↔ ∃ i, i ∈ is := by
      simp only [hfinds, hmem, ← hits_iff_candidate (exact.on h) hc hv, hanchor, true_or,
        and_true, (pass_of_exact (exact.on h) hc).2, List.mem_iff_getElem?]
      constructor
      · rintro ⟨single, ⟨i, hi⟩, hf⟩
        exact ⟨i, single, hi, hf⟩
      · rintro ⟨i, single, hi, hf⟩
        exact ⟨single, ⟨i, hi⟩, hf⟩
    have hanswer : any = !is.isEmpty := by
      rw [Bool.eq_iff_iff, hiff, ← List.isEmpty_eq_false_iff_exists_mem, Bool.not_eq_true']
    rw [isMatch_unanchored hstage hspan, finish_eq_ok_iff, hany, hanswer]

/-- Over an exact engine, a set that was built by adding patterns finds those whose first match is
as the anchor asks, in ascending order of their numbers, whatever was asked of it since. -/
theorem searches_exact (exact : E.Exact) (anchor : Anchor) (adds : List String)
    (hcompile : ((new E anchor).after (adds.map .add)).compile.answer = .ok ())
    (later : List Operation) (h : Haystack) :
    ∃ is : List Nat,
      ((((new E anchor).after (adds.map .add)).compile.set.after later).matchesOf h).answer =
        .ok ⟨is⟩ ∧
      is.Pairwise (· < ·) ∧
      (∀ i, i ∈ is ↔ ∃ p single span, (adds.filter E.compilesAlone)[i]? = some p ∧
        E.compileSingle p = .ok single ∧ E.findFirst single h = .ok (some span) ∧
        anchor.Covers span h) ∧
      ((((new E anchor).after (adds.map .add)).compile.set.after later).isMatch h).answer =
        .ok (!is.isEmpty) := by
  obtain ⟨_, hanchor, hpatterns⟩ := after_adds (s := new E anchor) rfl adds
  obtain ⟨hcompiled, hanchor', hpatterns'⟩ := compile_eq_ok hcompile
  have built : Reachable ((new E anchor).after (adds.map .add)).compile.set :=
    ((Reachable.new anchor).after _).perform .compile
  have hs := built.consistent exact.onlyInserts
  obtain ⟨hsame, hsame', -⟩ := (alike_after hcompiled later).search_eq
    ((built.after later).consistent exact.onlyInserts) hs h
  obtain ⟨combined, scratch, hstage⟩ := isCompiled_iff.1 hcompiled
  obtain ⟨is, hok, hasc, hmem⟩ := hs.matchesOf_of_exact exact.onlyInserts (exact.on h) hstage
  refine ⟨is, hsame'.trans hok, hasc, fun i => ?_, ?_⟩
  · rw [hmem, Hits, hanchor', hanchor, hpatterns', hpatterns]
    rfl
  · exact hsame.1.trans (hs.isMatch_of_exact exact hstage hok hmem)

/-- The answers of an engine that refuses a pattern, and finds two of three others. -/
def oneRefused : Tabulated.Answers where
  refused := [("(", "unclosed group")]
  rules := [⟨"a", none, .ok true, .ok (some ⟨0, 1⟩)⟩, ⟨"b", none, .ok true, .ok (some ⟨1, 2⟩)⟩,
    ⟨"c", none, .ok false, .ok none⟩]

theorem oneRefused_coherent : oneRefused.Coherent where
  no_other_answers := rfl
  candidate_iff_span r hr := by
    simp only [oneRefused, List.mem_cons, List.not_mem_nil, or_false] at hr
    rcases hr with rfl | rfl | rfl
    · exact ⟨some ⟨0, 1⟩, rfl, rfl⟩
    · exact ⟨some ⟨1, 2⟩, rfl, rfl⟩
    · exact ⟨none, rfl, rfl⟩

/-- The second "a" has the number two, since the refused pattern took none. -/
theorem searches_exact_past_refusal :
    (Tabulated.engine oneRefused).Exact ∧
      ((new (Tabulated.engine oneRefused) .start).after
        (["b", "(", "a", "a", "c"].map .add)).compile.answer = .ok () ∧
      ∃ is : List Nat, ((((new (Tabulated.engine oneRefused) .start).after
          (["b", "(", "a", "a", "c"].map .add)).compile.set.after
            [.matchesOf [98]]).matchesOf [97, 98]).answer = .ok ⟨is⟩ ∧ 0 ∉ is ∧ 2 ∈ is := by
  have exact := oneRefused_coherent.exact
  have hcompile : ((new (Tabulated.engine oneRefused) .start).after
      (["b", "(", "a", "a", "c"].map .add)).compile.answer = .ok () := rfl
  refine ⟨exact, hcompile, ?_⟩
  obtain ⟨is, hok, -, hmem, -⟩ :=
    searches_exact exact .start ["b", "(", "a", "a", "c"] hcompile [.matchesOf [98]] [97, 98]
  refine ⟨is, hok, fun hi => ?_, (hmem 2).2 ⟨"a", "a", ⟨0, 1⟩, by decide, rfl, rfl, rfl⟩⟩
  obtain ⟨p, single, span, hp, hsingle, hfound, hcovers⟩ := (hmem 0).1 hi
  obtain rfl : "b" = p := Option.some.inj hp
  obtain rfl : "b" = single := Except.ok.inj hsingle
  obtain rfl : ⟨1, 2⟩ = span := Option.some.inj (Except.ok.inj hfound)
  cases hcovers

end PatternSet

end Multimatch
