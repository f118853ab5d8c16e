import Multimatch.Proofs.Searching

/-!
# Engines that answer where another one does

One engine follows another if it gives the answers of the other wherever that has one. Then a set
over the first follows a set over the second: the loops over the candidates meet the same first
matches in the same order, up to the first failure of the second engine, and it fails itself there.
-/
namespace Multimatch

/-- An engine gives the answers of another one for the same patterns, wherever that has one. -/
structure Engine.Follows (F E : Engine) : Prop where
  findFirst : ∀ (p : String) (single : E.Single) (single' : F.Single),
    E.compileSingle p = .ok single → F.compileSingle p = .ok single' →
      ∀ (h : Haystack) (first : Option Span),
        E.findFirst single h = .ok first → F.findFirst single' h = .ok first
  isMatch : ∀ (ps : List String) (combined : E.Combined) (combined' : F.Combined),
    E.compileCombined ps = .ok combined → F.compileCombined ps = .ok combined' →
      ∀ (h : Haystack) (any : Bool),
        E.isMatch combined h = .ok any → F.isMatch combined' h = .ok any
  whichMatch : ∀ (ps : List String) (combined : E.Combined) (combined' : F.Combined),
    E.compileCombined ps = .ok combined → F.compileCombined ps = .ok combined' →
      ∀ (h : Haystack) (buffer found : Candidates),
        E.whichMatch combined h buffer = (found, .ok ()) →
          F.whichMatch combined' h buffer = (found, .ok ())

theorem StopsAfter.imp {pass stop pass' stop' : Nat → Prop} {indices : List Nat}
    (hs : StopsAfter pass stop indices) (hpass : ∀ i, pass i → pass' i)
    (hstop : ∀ i, stop i → stop' i) : StopsAfter pass' stop' indices := by
  obtain ⟨c, hc, hstops, hbefore⟩ := hs
  refine ⟨c, hc, hstop c hstops, ?_⟩
  intro b hb hlt
  exact hpass b (hbefore b hb hlt)

namespace PatternSet

variable {E F : Engine} {s : PatternSet E} {t : PatternSet F} {h : Haystack}

/-- A set that looks for the same anchor as another one is told of the same first matches, wherever
the other is told of one. -/
structure Echoes (t : PatternSet F) (s : PatternSet E) (h : Haystack) : Prop where
  anchor_eq : t.anchor = s.anchor
  first_eq : ∀ (i : Nat) (first : Option Span), s.firstAt h i = some (.ok first) →
    t.firstAt h i = some (.ok first)

namespace Echoes

theorem accepts (he : t.Echoes s h) {i : Nat} (ha : s.Accepts h i) : t.Accepts h i := by
  obtain ⟨span, hfirst, hcovers⟩ := ha
  have hfirst' := he.first_eq i _ hfirst
  rw [← he.anchor_eq] at hcovers
  exact ⟨span, hfirst', hcovers⟩

theorem rejects (he : t.Echoes s h) {i : Nat} (hr : s.Rejects h i) : t.Rejects h i := by
  obtain ⟨first, hfirst, hnot⟩ := hr
  have hfirst' := he.first_eq i _ hfirst
  rw [← he.anchor_eq] at hnot
  exact ⟨first, hfirst', hnot⟩

/-- The loop that goes on to the last candidate. -/
theorem acceptedOf (he : t.Echoes s h) {indices kept : List Nat} (hh : s.Holds indices)
    (hh' : t.Holds indices) (hok : (s.acceptedOf h indices).answer = .ok kept) :
    (t.acceptedOf h indices).answer = .ok kept := by
  induction indices generalizing kept with
  | nil => exact hok
  | cons i rest ih =>
    have hgo : ∀ more, (s.acceptedOf h rest).answer = .ok more →
        (t.acceptedOf h rest).answer = .ok more := fun _ => ih hh.tail hh'.tail
    rcases acceptedOf_cons (h := h) hh.head rest with
      ⟨ha, heq⟩ | ⟨first, hfirst, hr, heq⟩ | ⟨e, -, heq⟩
    · rw [heq] at hok
      have ha' := he.accepts ha
      cases hrest : (s.acceptedOf h rest).answer with
      | error e =>
        rw [hrest] at hok
        cases hok
      | ok more =>
        rw [hrest] at hok
        have hrest' := hgo more hrest
        rcases acceptedOf_cons (h := h) hh'.head rest with
          ⟨-, heq'⟩ | ⟨_, -, hr', -⟩ | ⟨e, hf, -⟩
        · rw [heq', hrest']
          exact hok
        · exact absurd ha' hr'.not_accepts
        · exact absurd hf ha'.settles.not_failsWith
    · rw [heq] at hok
      have hr' := he.rejects hr
      have hrest' := hgo kept hok
      rcases acceptedOf_cons (h := h) hh'.head rest with
        ⟨ha', -⟩ | ⟨_, -, -, heq'⟩ | ⟨e, hf, -⟩
      · exact absurd ha' hr'.not_accepts
      · rw [heq']
        exact hrest'
      · exact absurd hf hr'.settles.not_failsWith
    · rw [heq] at hok
      cases hok

/-- The loop that stops at the first candidate that the anchor accepts. -/
theorem anyAcceptedOf (he : t.Echoes s h) {indices : List Nat} {any : Bool}
    (hasc : indices.Pairwise (· < ·)) (hh : s.Holds indices) (hh' : t.Holds indices)
    (hok : (s.anyAcceptedOf h indices).answer = .ok any) :
    (t.anyAcceptedOf h indices).answer = .ok any := by
  cases any with
  | true =>
    have hstops := (anyAcceptedOf_eq_true_iff hasc hh).1 hok
    rw [anyAcceptedOf_eq_true_iff hasc hh']
    exact hstops.imp (fun _ => he.rejects) (fun _ => he.accepts)
  | false =>
    have hall := (anyAcceptedOf_eq_false_iff hh).1 hok
    rw [anyAcceptedOf_eq_false_iff hh']
    intro c hc
    exact he.rejects (hall c hc)

end Echoes

/-! ## Sets over engines of which one follows the other -/

section Follows

variable {combined : E.Combined} {combined' : F.Combined} {scratch scratch' : Scratch}

/-- Handles for the same patterns are told of the same first matches. -/
theorem echoes_of_follows (follows : F.Follows E) (hs : s.Consistent) (ht : t.Consistent)
    (hanchor : t.anchor = s.anchor) (hpatterns : t.patterns = s.patterns)
    (hstage : s.stage = .compiled combined scratch)
    (hstage' : t.stage = .compiled combined' scratch') (hspan : s.anchor.needsSpan = true)
    (h : Haystack) : t.Echoes s h := by
  have hspan' : t.anchor.needsSpan = true := by rw [hanchor, hspan]
  have hhandles := hs.verifiers_eq hspan (by rw [isFailed, hstage])
  have hhandles' := ht.verifiers_eq hspan' (by rw [isFailed, hstage'])
  rw [hpatterns] at hhandles'
  refine ⟨hanchor, ?_⟩
  intro i first hfirst
  obtain ⟨single, hsingle, hfind⟩ := Option.map_eq_some_iff.1 hfirst
  obtain ⟨p, hp, hcompile⟩ := hhandles.getElem?_eq_some_iff.1 hsingle
  have hi : i < t.verifiers.length := by
    rw [← hhandles'.length_eq]
    exact (List.getElem?_eq_some_iff.1 hp).1
  have hsingle' : t.verifiers[i]? = some t.verifiers[i] := List.getElem?_eq_getElem hi
  obtain ⟨p', hp', hcompile'⟩ := hhandles'.getElem?_eq_some_iff.1 hsingle'
  obtain rfl : p = p' := Option.some.inj (hp.symm.trans hp')
  have hfind' := follows.findFirst p _ _ hcompile hcompile' h first hfind
  rw [firstAt, hsingle', Option.map_some, hfind']

/-- The combined matchers make the same candidates. -/
theorem candidates_of_follows (follows : F.Follows E) (hs : s.Consistent) (ht : t.Consistent)
    (hpatterns : t.patterns = s.patterns) (hstage : s.stage = .compiled combined scratch)
    (hstage' : t.stage = .compiled combined' scratch') (hpass : (s.pass combined h).2 = .ok ()) :
    (t.pass combined' h).2 = .ok () ∧ t.candidates combined' h = s.candidates combined h := by
  have htogether := (hs.compiled combined scratch hstage).1
  have htogether' := (ht.compiled combined' scratch' hstage').1
  rw [hpatterns] at htogether'
  have hsize : t.size = s.size := congrArg List.length hpatterns
  have hall : E.whichMatch combined h (.new s.size) = ((s.pass combined h).1, .ok ()) :=
    Prod.ext rfl hpass
  have hall' := follows.whichMatch _ _ _ htogether htogether' h _ _ hall
  rw [← hsize] at hall'
  exact ⟨congrArg Prod.snd hall', congrArg (fun found => found.1.toList) hall'⟩

variable (follows : F.Follows E) (insertsE : E.OnlyInserts) (insertsF : F.OnlyInserts)

include follows insertsE insertsF in
theorem isMatch_of_follows (hs : s.Consistent) (ht : t.Consistent) (hanchor : t.anchor = s.anchor)
    (hpatterns : t.patterns = s.patterns) (hc : t.isCompiled = true) {any : Bool}
    (hok : (s.isMatch h).answer = .ok any) : (t.isMatch h).answer = .ok any := by
  cases hc' : s.isCompiled with
  | false =>
    rw [isMatch_early hc'] at hok
    cases hok
  | true =>
    obtain ⟨combined, scratch, hstage⟩ := isCompiled_iff.1 hc'
    obtain ⟨combined', scratch', hstage'⟩ := isCompiled_iff.1 hc
    cases hspan : s.anchor.needsSpan with
    | false =>
      have hspan' : t.anchor.needsSpan = false := by rw [hanchor, hspan]
      rw [isMatch_unanchored hstage hspan, finish_eq_ok_iff] at hok
      rw [isMatch_unanchored hstage' hspan', finish_eq_ok_iff]
      have htogether := (hs.compiled combined scratch hstage).1
      have htogether' := (ht.compiled combined' scratch' hstage').1
      rw [hpatterns] at htogether'
      exact follows.isMatch _ _ _ htogether htogether' h any hok
    | true =>
      have hspan' : t.anchor.needsSpan = true := by rw [hanchor, hspan]
      rw [hs.isMatch_eq hstage hspan, finish_eq_ok_iff, foundBy_eq_ok_iff] at hok
      obtain ⟨hpass, hgo⟩ := hok
      obtain ⟨hpass', hcandidates⟩ :=
        candidates_of_follows follows hs ht hpatterns hstage hstage' hpass
      have hh := hs.holds_candidates insertsE hstage hspan h
      have hh' := ht.holds_candidates insertsF hstage' hspan' h
      have hasc := s.pairwise_candidates combined h
      have he := echoes_of_follows follows hs ht hanchor hpatterns hstage hstage' hspan h
      rw [hcandidates] at hh'
      rw [ht.isMatch_eq hstage' hspan', finish_eq_ok_iff, foundBy_eq_ok_iff, hcandidates]
      exact ⟨hpass', he.anyAcceptedOf hasc hh hh' hgo⟩

include follows insertsE insertsF in
theorem matchesOf_of_follows (hs : s.Consistent) (ht : t.Consistent)
    (hanchor : t.anchor = s.anchor) (hpatterns : t.patterns = s.patterns)
    (hc : t.isCompiled = true) {m : Matches} (hok : (s.matchesOf h).answer = .ok m) :
    (t.matchesOf h).answer = .ok m := by
  cases hc' : s.isCompiled with
  | false =>
    rw [matchesOf_early hc'] at hok
    cases hok
  | true =>
    obtain ⟨combined, scratch, hstage⟩ := isCompiled_iff.1 hc'
    obtain ⟨combined', scratch', hstage'⟩ := isCompiled_iff.1 hc
    rw [hs.matchesOf_eq hstage, finish_eq_ok_iff, foundBy_eq_ok_iff] at hok
    obtain ⟨hpass, hgo⟩ := hok
    obtain ⟨hpass', hcandidates⟩ :=
      candidates_of_follows follows hs ht hpatterns hstage hstage' hpass
    rw [ht.matchesOf_eq hstage', finish_eq_ok_iff, foundBy_eq_ok_iff, hcandidates]
    refine ⟨hpass', ?_⟩
    cases hspan : s.anchor.needsSpan with
    | false =>
      have hspan' : t.anchor.needsSpan = false := by rw [hanchor, hspan]
      rw [goAll_unanchored hspan] at hgo
      rw [goAll_unanchored hspan']
      exact hgo
    | true =>
      have hspan' : t.anchor.needsSpan = true := by rw [hanchor, hspan]
      have hh := hs.holds_candidates insertsE hstage hspan h
      have hh' := ht.holds_candidates insertsF hstage' hspan' h
      have he := echoes_of_follows follows hs ht hanchor hpatterns hstage hstage' hspan h
      rw [hcandidates] at hh'
      rw [goAll_eq_ok_iff hspan] at hgo
      rw [goAll_eq_ok_iff hspan']
      exact he.acceptedOf hh hh' hgo

end Follows

end PatternSet

end Multimatch
