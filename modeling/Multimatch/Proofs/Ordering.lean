import Multimatch.Proofs.Agreement
import Multimatch.Proofs.Composition

/-!
# Anchors in order

One anchor is looser than another if it accepts every span that the other accepts. Sets of the same
patterns that differ in the anchor go through the same candidates and ask for the same first
matches, and whether that fails has nothing to do with the anchor. So the full loops of two such
sets fail alike, and the looser one keeps what the stricter one keeps. The loops that stop early may
stop at different candidates: then the looser one has succeeded, and may have missed a failure.

Nothing is assumed of the engine, as long as the sets have not been searched before.
-/
namespace Multimatch

/-- An anchor accepts every span that another one accepts. -/
def Anchor.Loosens (loose strict : Anchor) : Prop :=
  ∀ (span : Span) (length : Nat),
    strict.accepts span length = true → loose.accepts span length = true

theorem Anchor.start_loosens_both : Anchor.start.Loosens .both := by
  intro span length haccepts
  simp only [Anchor.accepts, Bool.and_eq_true] at haccepts
  exact haccepts.1

namespace PatternSet

variable {E : Engine} {s t : PatternSet E} {h : Haystack}

/-! ## The loops of two sets with the same handles -/

section Loops

theorem verify_answer (h : Haystack) (single : E.Single) (i : Nat) :
    (s.verify h single i).answer =
      (E.findFirst single h).map fun first => first.any (s.anchor.accepts · h.length) := by
  unfold verify
  cases E.findFirst single h with
  | error e => rfl
  | ok first =>
    dsimp only [Except.map]
    cases hany : first.any (s.anchor.accepts · h.length) with
    | true => rw [if_pos rfl]
    | false => rw [if_neg Bool.false_ne_true]

/-- Verifying fails for both anchors or for none, and what the stricter one accepts the looser one
accepts. -/
theorem verify_ordered (hloose : s.anchor.Loosens t.anchor) (h : Haystack) (single : E.Single)
    (i : Nat) :
    (∃ e, (s.verify h single i).answer = .error e ∧ (t.verify h single i).answer = .error e) ∨
      ∃ b b', (s.verify h single i).answer = .ok b ∧ (t.verify h single i).answer = .ok b' ∧
        (b' = true → b = true) := by
  rw [verify_answer, verify_answer]
  cases E.findFirst single h with
  | error e => exact .inl ⟨e, rfl, rfl⟩
  | ok first =>
    refine .inr ⟨_, _, rfl, rfl, ?_⟩
    intro hany
    obtain ⟨span, hspan, haccepts⟩ := (Option.any_eq_true _ _).1 hany
    exact (Option.any_eq_true _ _).2 ⟨span, hspan, hloose span h.length haccepts⟩

theorem acceptedOf_answer {i : Nat} {single : E.Single} (hi : s.verifiers[i]? = some single)
    (h : Haystack) (rest : List Nat) :
    (s.acceptedOf h (i :: rest)).answer = (s.verify h single i).answer.bind fun accepted =>
      (s.acceptedOf h rest).answer.map fun is => if accepted then i :: is else is := by
  rw [acceptedOf, hi]
  dsimp only
  cases hv : s.verify h single i with
  | mk answer events => cases answer <;> rfl

theorem anyAcceptedOf_answer {i : Nat} {single : E.Single} (hi : s.verifiers[i]? = some single)
    (h : Haystack) (rest : List Nat) :
    (s.anyAcceptedOf h (i :: rest)).answer = (s.verify h single i).answer.bind fun accepted =>
      if accepted then .ok true else (s.anyAcceptedOf h rest).answer := by
  rw [anyAcceptedOf, hi]
  dsimp only
  cases hv : s.verify h single i with
  | mk answer events =>
    cases answer with
    | error e => rfl
    | ok accepted => cases accepted <;> rfl

/-- The loop keeps some of the candidates, in their order. -/
theorem acceptedOf_sublist {indices kept : List Nat}
    (hok : (s.acceptedOf h indices).answer = .ok kept) : kept.Sublist indices := by
  induction indices generalizing kept with
  | nil =>
    obtain rfl := Except.ok.inj hok
    exact .refl []
  | cons i rest ih =>
    cases hi : s.verifiers[i]? with
    | none =>
      rw [acceptedOf, hi] at hok
      exact (ih hok).cons i
    | some single =>
      rw [acceptedOf_answer hi] at hok
      cases hv : (s.verify h single i).answer with
      | error e =>
        rw [hv] at hok
        cases hok
      | ok accepted =>
        cases hrest : (s.acceptedOf h rest).answer with
        | error e =>
          rw [hv, hrest] at hok
          cases hok
        | ok more =>
          rw [hv, hrest] at hok
          obtain rfl := Except.ok.inj hok
          cases accepted with
          | true => exact (ih hrest).cons_cons i
          | false => exact (ih hrest).cons i

variable (hverifiers : s.verifiers = t.verifiers) (hloose : s.anchor.Loosens t.anchor)

include hverifiers hloose in
/-- The full loops fail alike, and the looser anchor keeps what the stricter one keeps. -/
theorem acceptedOf_ordered (h : Haystack) (indices : List Nat) :
    (∃ e, (s.acceptedOf h indices).answer = .error e ∧
        (t.acceptedOf h indices).answer = .error e) ∨
      ∃ kept kept', (s.acceptedOf h indices).answer = .ok kept ∧
        (t.acceptedOf h indices).answer = .ok kept' ∧ kept'.Sublist kept := by
  induction indices with
  | nil => exact .inr ⟨[], [], rfl, rfl, .refl []⟩
  | cons i rest ih =>
    cases hi : s.verifiers[i]? with
    | none =>
      have hi' := hi
      rw [hverifiers] at hi'
      simpa only [acceptedOf, hi, hi'] using ih
    | some single =>
      have hi' := hi
      rw [hverifiers] at hi'
      rw [acceptedOf_answer hi, acceptedOf_answer hi']
      rcases verify_ordered hloose h single i with ⟨e, he, he'⟩ | ⟨b, b', hb, hb', himp⟩
      · rw [he, he']
        exact .inl ⟨e, rfl, rfl⟩
      · rw [hb, hb']
        rcases ih with ⟨e, he, he'⟩ | ⟨kept, kept', hkept, hkept', hsub⟩
        · rw [he, he']
          exact .inl ⟨e, rfl, rfl⟩
        · rw [hkept, hkept']
          refine .inr ⟨_, _, rfl, rfl, ?_⟩
          cases b' with
          | true =>
            rw [himp rfl]
            exact hsub.cons_cons i
          | false =>
            cases b with
            | true => exact hsub.cons i
            | false => exact hsub

include hverifiers hloose in
/-- The loop that stops early succeeds for the looser anchor, or both end alike. -/
theorem anyAcceptedOf_ordered (h : Haystack) (indices : List Nat) :
    (s.anyAcceptedOf h indices).answer = .ok true ∨
      (s.anyAcceptedOf h indices).answer = (t.anyAcceptedOf h indices).answer := by
  induction indices with
  | nil => exact .inr rfl
  | cons i rest ih =>
    cases hi : s.verifiers[i]? with
    | none =>
      have hi' := hi
      rw [hverifiers] at hi'
      simpa only [anyAcceptedOf, hi, hi'] using ih
    | some single =>
      have hi' := hi
      rw [hverifiers] at hi'
      rw [anyAcceptedOf_answer hi, anyAcceptedOf_answer hi']
      rcases verify_ordered hloose h single i with ⟨e, he, he'⟩ | ⟨b, b', hb, hb', himp⟩
      · rw [he, he']
        exact .inr rfl
      · rw [hb, hb']
        cases b with
        | true => exact .inl rfl
        | false =>
          have hstrict : b' = false :=
            Bool.eq_false_iff.2 fun htrue => Bool.false_ne_true (himp htrue)
          rw [hstrict]
          exact ih

end Loops

/-! ## Two sets of the same patterns -/

namespace Consistent

variable {combined combined' : E.Combined} {scratch scratch' : Scratch}

theorem matchesOf_answer (hs : s.Consistent) (hstage : s.stage = .compiled combined scratch) :
    (s.matchesOf h).answer = ((s.pass combined h).2.bind fun _ =>
      (s.goAll h (s.candidates combined h)).answer).mapError .matchEngine := by
  rw [hs.matchesOf_eq hstage]
  unfold PatternSet.finish foundBy
  cases (s.pass combined h).2 <;> rfl

theorem isMatch_answer (hs : s.Consistent) (hstage : s.stage = .compiled combined scratch)
    (hspan : s.anchor.needsSpan = true) :
    (s.isMatch h).answer = ((s.pass combined h).2.bind fun _ =>
      (s.anyAcceptedOf h (s.candidates combined h)).answer).mapError .matchEngine := by
  rw [hs.isMatch_eq hstage hspan]
  unfold PatternSet.finish foundBy
  cases (s.pass combined h).2 <;> rfl

section Pair

variable (hs : s.Consistent) (ht : t.Consistent) (hpatterns : s.patterns = t.patterns)
  (hstage : s.stage = .compiled combined scratch)
  (hstage' : t.stage = .compiled combined' scratch')

include hs ht hpatterns hstage hstage' in
/-- The combined matcher finds the same candidates for both sets. -/
theorem pass_eq (h : Haystack) : s.pass combined h = t.pass combined' h := by
  obtain rfl := hs.combined_eq ht hpatterns hstage hstage'
  have hsize : s.size = t.size := congrArg List.length hpatterns
  rw [pass, pass, hsize]

include hs ht hpatterns hstage hstage' in
/-- Where no spans are needed, the candidates themselves are what is found. -/
theorem matchesOf_unanchored_ordered (hspan : s.anchor.needsSpan = false)
    (hspan' : t.anchor.needsSpan = true) (h : Haystack) :
    (∃ error, (s.matchesOf h).answer = .error error ∧ (t.matchesOf h).answer = .error error) ∨
      ∃ m, (s.matchesOf h).answer = .ok m ∧
        ∀ m', (t.matchesOf h).answer = .ok m' → m'.indices.Sublist m.indices := by
  have hpass := hs.pass_eq ht hpatterns hstage hstage' h
  rw [hs.matchesOf_answer hstage, ht.matchesOf_answer hstage', candidates, candidates, hpass]
  cases (t.pass combined' h).2 with
  | error e => exact .inl ⟨.matchEngine e, rfl, rfl⟩
  | ok _ =>
    refine .inr ⟨⟨(t.pass combined' h).1.toList⟩, ?_, ?_⟩
    · rw [goAll_unanchored hspan]
      rfl
    · intro m' hm'
      have hgo : (t.goAll h (t.pass combined' h).1.toList).answer = .ok m' := by
        cases hgo : (t.goAll h (t.pass combined' h).1.toList).answer with
        | error e =>
          simp only [hgo, Except.bind] at hm'
          cases hm'
        | ok m =>
          simp only [hgo, Except.bind] at hm'
          exact congrArg Except.ok (Except.ok.inj hm')
      exact acceptedOf_sublist ((goAll_eq_ok_iff hspan' _).1 hgo)

variable (hspan : s.anchor.needsSpan = true) (hspan' : t.anchor.needsSpan = true)
  (hloose : s.anchor.Loosens t.anchor)

include hs ht hpatterns hstage hstage' hspan hspan' hloose in
theorem matchesOf_ordered (h : Haystack) :
    (∃ error, (s.matchesOf h).answer = .error error ∧ (t.matchesOf h).answer = .error error) ∨
      ∃ m m', (s.matchesOf h).answer = .ok m ∧ (t.matchesOf h).answer = .ok m' ∧
        m'.indices.Sublist m.indices := by
  have hpass := hs.pass_eq ht hpatterns hstage hstage' h
  have hverifiers := hs.verifiers_eq_of_patterns ht hpatterns hstage hstage' hspan hspan'
  rw [hs.matchesOf_answer hstage, ht.matchesOf_answer hstage', candidates, candidates, hpass]
  cases (t.pass combined' h).2 with
  | error e => exact .inl ⟨.matchEngine e, rfl, rfl⟩
  | ok _ =>
    rw [goAll, goAll, if_pos hspan, if_pos hspan']
    rcases acceptedOf_ordered hverifiers hloose h (t.pass combined' h).1.toList with
      ⟨e, he, he'⟩ | ⟨kept, kept', hkept, hkept', hsub⟩
    · rw [he, he']
      exact .inl ⟨.matchEngine e, rfl, rfl⟩
    · rw [hkept, hkept']
      exact .inr ⟨⟨kept⟩, ⟨kept'⟩, rfl, rfl, hsub⟩

include hs ht hpatterns hstage hstage' hspan hspan' hloose in
theorem isMatch_ordered (h : Haystack) :
    (s.isMatch h).answer = .ok true ∨ (s.isMatch h).answer = (t.isMatch h).answer := by
  have hpass := hs.pass_eq ht hpatterns hstage hstage' h
  have hverifiers := hs.verifiers_eq_of_patterns ht hpatterns hstage hstage' hspan hspan'
  rw [hs.isMatch_answer hstage hspan, ht.isMatch_answer hstage' hspan', candidates, candidates,
    hpass]
  cases (t.pass combined' h).2 with
  | error e => exact .inr rfl
  | ok _ =>
    rcases anyAcceptedOf_ordered hverifiers hloose h (t.pass combined' h).1.toList with
      htrue | hsame
    · rw [htrue]
      exact .inl rfl
    · rw [hsame]
      exact .inr rfl

end Pair

end Consistent

/-! ## Three sets -/

/-- What three sets answer about a haystack is ordered as their anchors are: `u` asks for any match,
`s` for one at the start and `b` for one of the whole haystack. -/
structure Ordered (u s b : PatternSet E) (h : Haystack) : Prop where
  /-- Where even the loosest set fails, all fail alike. -/
  all_fail : ∀ error, (u.matchesOf h).answer = .error error →
    (s.matchesOf h).answer = .error error ∧ (b.matchesOf h).answer = .error error
  /-- The two sets that ask for spans fail alike. -/
  error_iff : ∀ error, (s.matchesOf h).answer = .error error ↔ (b.matchesOf h).answer = .error error
  /-- A stricter set finds no more than a looser one. -/
  start_subset : ∀ m, (s.matchesOf h).answer = .ok m →
    ∃ m', (u.matchesOf h).answer = .ok m' ∧ m.indices ⊆ m'.indices
  both_subset : ∀ m, (b.matchesOf h).answer = .ok m →
    ∃ m', (s.matchesOf h).answer = .ok m' ∧ m.indices ⊆ m'.indices
  any_of_both : (b.isMatch h).answer = .ok true → (s.isMatch h).answer = .ok true
  none_of_start : (s.isMatch h).answer = .ok false → (b.isMatch h).answer = .ok false
  fails_of_start : ∀ error, (s.isMatch h).answer = .error error →
    (b.isMatch h).answer = .error error

theorem ordered_of_consistent {u s b : PatternSet E} (hu : u.Consistent) (hs : s.Consistent)
    (hb : b.Consistent) (hanchor : u.anchor = .unanchored ∧ s.anchor = .start ∧ b.anchor = .both)
    (hcompiled : u.isCompiled = true ∧ s.isCompiled = true ∧ b.isCompiled = true)
    (hpatterns : u.patterns = s.patterns ∧ s.patterns = b.patterns) (h : Haystack) :
    Ordered u s b h := by
  obtain ⟨hau, has, hab⟩ := hanchor
  obtain ⟨hcu, hcs, hcb⟩ := hcompiled
  obtain ⟨combined, scratch, hstage⟩ := isCompiled_iff.1 hcu
  obtain ⟨combined', scratch', hstage'⟩ := isCompiled_iff.1 hcs
  obtain ⟨combined'', scratch'', hstage''⟩ := isCompiled_iff.1 hcb
  have hspan : u.anchor.needsSpan = false := by rw [hau]; rfl
  have hspan' : s.anchor.needsSpan = true := by rw [has]; rfl
  have hspan'' : b.anchor.needsSpan = true := by rw [hab]; rfl
  have hloose : s.anchor.Loosens b.anchor := by
    rw [has, hab]
    exact Anchor.start_loosens_both
  have hloosest := hu.matchesOf_unanchored_ordered hs hpatterns.1 hstage hstage' hspan hspan' h
  have hall := hs.matchesOf_ordered hb hpatterns.2 hstage' hstage'' hspan' hspan'' hloose h
  have hany := hs.isMatch_ordered hb hpatterns.2 hstage' hstage'' hspan' hspan'' hloose h
  have hiff : ∀ error, (s.matchesOf h).answer = .error error ↔
      (b.matchesOf h).answer = .error error := by
    intro error
    rcases hall with ⟨error', he, he'⟩ | ⟨m, m', hm, hm', -⟩
    · rw [he, he']
    · rw [hm, hm']
      exact ⟨nofun, nofun⟩
  refine ⟨?_, hiff, ?_, ?_, ?_, ?_, ?_⟩
  · intro error hfails
    have hfails' : (s.matchesOf h).answer = .error error := by
      rcases hloosest with ⟨error', he, he'⟩ | ⟨m, hm, -⟩
      · rw [hfails] at he
        rw [he', Except.error.inj he]
      · rw [hfails] at hm
        cases hm
    exact ⟨hfails', (hiff error).1 hfails'⟩
  · intro m hm
    rcases hloosest with ⟨error, -, he⟩ | ⟨m', hm', hsub⟩
    · rw [hm] at he
      cases he
    · exact ⟨m', hm', (hsub m hm).subset⟩
  · intro m hm
    rcases hall with ⟨error, -, he⟩ | ⟨m', m'', hm', hm'', hsub⟩
    · rw [hm] at he
      cases he
    · rw [hm] at hm''
      obtain rfl := Except.ok.inj hm''
      exact ⟨m', hm', hsub.subset⟩
  · intro htrue
    rcases hany with htrue' | hsame
    · exact htrue'
    · rw [hsame, htrue]
  · intro hfalse
    rcases hany with htrue | hsame
    · rw [hfalse] at htrue
      cases htrue
    · rw [← hsame, hfalse]
  · intro error he
    rcases hany with htrue | hsame
    · rw [he] at htrue
      cases htrue
    · rw [← hsame, he]

/-! ## Sets built alike -/

theorem Consistent.after_adds {ps : List String} (hs : s.Consistent) :
    (s.after (ps.map .add)).Consistent := by
  induction ps generalizing s with
  | nil => exact hs
  | cons p ps ih => exact ih (hs.add p)

/-- No buffer is used to build a set. -/
theorem consistent_built (E : Engine) (anchor : Anchor) (ps : List String) :
    (built E anchor ps).Consistent :=
  (consistent_new anchor).after_adds.compile

theorem Consistent.after (hs : s.Consistent) (keeps : E.KeepsCapacity) (ops : List Operation) :
    (s.after ops).Consistent := by
  induction ops generalizing s with
  | nil => exact hs
  | cons op ops ih => exact ih (hs.perform keeps op)

theorem compile_eq_ok_iff (hstage : s.stage = .building) :
    s.compile.answer = .ok () ↔ ∃ combined, E.compileCombined s.patterns = .ok combined := by
  rcases compile_cases s with ⟨hnot, -⟩ | ⟨-, source, hall, heq⟩ | ⟨-, combined, hall, heq⟩
  · exact absurd hstage hnot
  · rw [heq, hall]
    exact ⟨nofun, nofun⟩
  · rw [heq, hall]
    exact ⟨fun _ => ⟨combined, rfl⟩, fun _ => rfl⟩

/-- Whether the patterns that were added compile has nothing to do with the anchor. -/
theorem built_of_compiles {anchor : Anchor} {adds : List String}
    (hcompile : ((new E anchor).after (adds.map .add)).compile.answer = .ok ()) (other : Anchor) :
    (built E other adds).isCompiled = true ∧ (built E other adds).anchor = other ∧
      (built E other adds).patterns = adds.filter E.compilesAlone := by
  obtain ⟨hstage, -, hpatterns⟩ := PatternSet.after_adds (s := new E anchor) rfl adds
  obtain ⟨hstage', hanchor', hpatterns'⟩ := PatternSet.after_adds (s := new E other) rfl adds
  rw [compile_eq_ok_iff hstage, hpatterns] at hcompile
  have hcompile' : ((new E other).after (adds.map .add)).compile.answer = .ok () := by
    rw [compile_eq_ok_iff hstage', hpatterns']
    exact hcompile
  obtain ⟨hcompiled, hanchor, hpatterns⟩ := compile_eq_ok hcompile'
  exact ⟨hcompiled, hanchor.trans hanchor', hpatterns.trans hpatterns'⟩

/-- Three sets to which the same patterns were added, and which were compiled, answer in the order
of their anchors. Where the engine leaves the capacity of buffers as it is, they go on doing so,
whatever else is asked of each of them. -/
theorem anchors_ordered {anchor : Anchor} {adds : List String}
    (hcompile : ((new E anchor).after (adds.map .add)).compile.answer = .ok ()) (h : Haystack) :
    Ordered (built E .unanchored adds) (built E .start adds) (built E .both adds) h ∧
      (E.KeepsCapacity → ∀ later : Anchor → List Operation,
        Ordered ((built E .unanchored adds).after (later .unanchored))
          ((built E .start adds).after (later .start))
          ((built E .both adds).after (later .both)) h) := by
  obtain ⟨hu, hau, hpu⟩ := built_of_compiles hcompile .unanchored
  obtain ⟨hs, has, hps⟩ := built_of_compiles hcompile .start
  obtain ⟨hb, hab, hpb⟩ := built_of_compiles hcompile .both
  constructor
  · exact ordered_of_consistent (consistent_built _ _ _) (consistent_built _ _ _)
      (consistent_built _ _ _) ⟨hau, has, hab⟩ ⟨hu, hs, hb⟩
      ⟨hpu.trans hps.symm, hps.trans hpb.symm⟩ h
  · intro keeps later
    have hu' := alike_after hu (later .unanchored)
    have hs' := alike_after hs (later .start)
    have hb' := alike_after hb (later .both)
    apply ordered_of_consistent
    · exact (consistent_built _ _ _).after keeps _
    · exact (consistent_built _ _ _).after keeps _
    · exact (consistent_built _ _ _).after keeps _
    · exact ⟨hu'.anchor_eq.trans hau, hs'.anchor_eq.trans has, hb'.anchor_eq.trans hab⟩
    · exact ⟨hu'.isCompiled_eq.trans hu, hs'.isCompiled_eq.trans hs, hb'.isCompiled_eq.trans hb⟩
    · rw [hu'.patterns_eq, hs'.patterns_eq, hb'.patterns_eq, hpu, hps, hpb]
      exact ⟨rfl, rfl⟩

/-- The first of two candidates begins at the start, and the search for the second one fails: the
sets that ask for spans fail alike, but a match at the start is found before that. -/
theorem looser_search_misses_failure :
    ((new (Tabulated.engine secondFails) .both).after
        (["a", "b"].map .add)).compile.answer = .ok () ∧
      (Tabulated.engine secondFails).KeepsCapacity ∧
      ((built (Tabulated.engine secondFails) .start ["a", "b"]).isMatch [97, 98]).answer =
        .ok true ∧
      ((built (Tabulated.engine secondFails) .both ["a", "b"]).isMatch [97, 98]).answer =
        .error (.matchEngine (.quit 98 1)) ∧
      ((built (Tabulated.engine secondFails) .both ["a", "b"]).matchesOf [97, 98]).answer =
        .error (.matchEngine (.quit 98 1)) ∧
      (((built (Tabulated.engine secondFails) .both ["a", "b"]).after
        [.matchesOf [98]]).matchesOf [97, 98]).answer = .error (.matchEngine (.quit 98 1)) := by
  have hcompile : ((new (Tabulated.engine secondFails) .both).after
      (["a", "b"].map .add)).compile.answer = .ok () := rfl
  have keeps := (Tabulated.onlyInserts secondFails).keepsCapacity
  have hfails : ((built (Tabulated.engine secondFails) .start ["a", "b"]).matchesOf
      [97, 98]).answer = .error (.matchEngine (.quit 98 1)) := rfl
  have hfails' : (((built (Tabulated.engine secondFails) .start ["a", "b"]).after
      [.isMatch [97]]).matchesOf [97, 98]).answer = .error (.matchEngine (.quit 98 1)) := rfl
  obtain ⟨hordered, hlater⟩ := anchors_ordered hcompile [97, 98]
  have hordered' := hlater keeps fun anchor =>
    if anchor = .start then [.isMatch [97]] else [.matchesOf [98]]
  exact ⟨hcompile, keeps, rfl, rfl, (hordered.error_iff _).1 hfails,
    (hordered'.error_iff _).1 hfails'⟩

end PatternSet

end Multimatch
