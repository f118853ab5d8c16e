import Multimatch.Proofs.Reading
import Multimatch.Proofs.Consistency

/-!
# Patterns accepted alone are accepted together

An engine has a pattern compiled with one kind of settings when it is alone, and with another kind
when it is together with others. Neither has a bearing on what can be read, and for tables the kind
of matches has none on the edges of Unicode words. So patterns are refused together exactly if one
of them is refused alone. What is left are limits of size: patterns that are within them alone can
exceed them together, and for a set there is no other reason to fail.
-/
namespace Multimatch

namespace Engine

/-- The engines that leave it to backends to read patterns in a language. -/
inductive Reads (L : Language) : Engine → Prop
  | general {B : General.Backend} (c : General.Config) :
    B.Reads L → Reads L (General.engine B c)
  | dense {B : Dense.Backend} {admitsEdges : B.Settings → Prop} (c : Dense.Config B) :
    B.Reads L admitsEdges → Reads L (Dense.engine B c)

/-- The engine does not compile the pattern alone, and not for a limit of size. -/
def Refuses (E : Engine) (p : String) : Prop := Refused (E.compileSingle p)

/-- The engine does not compile the patterns together, and not for a limit of size. -/
def RefusesTogether (E : Engine) (ps : List String) : Prop := Refused (E.compileCombined ps)

end Engine

variable {L : Language}

/-! ## Engines without tables -/

namespace General

variable {B : Backend} {c : Config} {p : String} {ps : List String}

theorem refuses_iff (reads : B.Reads L) :
    (engine B c).Refuses p ↔ L.read c.options p = none := by
  constructor
  · rintro ⟨e, he, hlimit⟩
    exact (reads.fault_one he hlimit).1
  · exact reads.refuses_one c.settings

theorem refusesTogether_iff (reads : B.Reads L) :
    (engine B c).RefusesTogether ps ↔ ∃ p ∈ ps, (engine B c).Refuses p := by
  simp only [refuses_iff reads]
  constructor
  · rintro ⟨e, he, hlimit⟩
    obtain ⟨i, p, fault, hi, hread, -⟩ := reads.fault_many he hlimit
    exact ⟨p, List.mem_of_getElem? hi, hread⟩
  · rintro ⟨p, hp, hread⟩
    exact reads.refuses_many c.combinedSettings hp hread

/-- A pattern that is named is refused alone, as one that cannot be read. -/
theorem compileSingle_of_named (reads : B.Reads L) {i : Nat} {fault : Pattern.Fault}
    (he : (engine B c).compileCombined ps = .error (.pattern i fault)) :
    ∃ p fault', ps[i]? = some p ∧ (engine B c).compileSingle p = .error (.pattern 0 fault') := by
  obtain ⟨j, p, fault', hj, hread, heq⟩ := reads.fault_many he rfl
  obtain ⟨rfl, rfl⟩ := BuildError.pattern.inj heq
  obtain ⟨e, he, hlimit⟩ := reads.refuses_one c.settings hread
  obtain ⟨-, fault', rfl⟩ := reads.fault_one he hlimit
  exact ⟨p, fault', hj, he⟩

end General

/-! ## Engines with tables -/

namespace Dense

variable {B : Backend} {admitsEdges : B.Settings → Prop} {c : Config B} {p : String}
  {ps : List String}

theorem refuses_iff (reads : B.Reads L admitsEdges) :
    (engine B c).Refuses p ↔ L.Bars c.options (admitsEdges c.settings) p := by
  rw [← reads.edges_kind .leftmostFirst]
  exact reads.refused_one _ _ _

theorem refusesTogether_iff (reads : B.Reads L admitsEdges) :
    (engine B c).RefusesTogether ps ↔ ∃ p ∈ ps, (engine B c).Refuses p := by
  simp only [refuses_iff reads]
  rw [← reads.edges_kind .all]
  exact reads.refused_many _ _ _

theorem compileCombined_ne_named (reads : B.Reads L admitsEdges) {i : Nat}
    {fault : Pattern.Fault} : (engine B c).compileCombined ps ≠ .error (.pattern i fault) := by
  intro he
  rcases reads.cause_many he rfl with ⟨fault', hmalformed⟩ | hedge
  · cases hmalformed
  · cases hedge

end Dense

/-! ## Either engine -/

section Reads

variable {E : Engine}

theorem Engine.Reads.refusesTogether_iff (reads : E.Reads L) (ps : List String) :
    E.RefusesTogether ps ↔ ∃ p ∈ ps, E.Refuses p := by
  cases reads with
  | general c reads => exact General.refusesTogether_iff reads
  | dense c reads => exact Dense.refusesTogether_iff reads

/-- Patterns are refused because one cannot be read, or has an edge of a Unicode word. -/
theorem Engine.Reads.fault_or_edge (reads : E.Reads L) {e : BuildError} (hlimit : e.limit? = none)
    (he : (∃ p, E.compileSingle p = .error e) ∨ ∃ ps, E.compileCombined ps = .error e) :
    (∃ fault, e.fault? = some fault) ∨ e = .unicodeWordEdge := by
  cases reads with
  | general c reads =>
    rcases he with ⟨p, he⟩ | ⟨ps, he⟩
    · obtain ⟨-, fault, rfl⟩ := reads.fault_one he hlimit
      exact .inl ⟨fault, rfl⟩
    · obtain ⟨i, p, fault, -, -, rfl⟩ := reads.fault_many he hlimit
      exact .inl ⟨fault, rfl⟩
  | dense c reads =>
    have hcases : (∃ fault, e = .automaton (.malformed fault)) ∨ e = .unicodeWordEdge := by
      rcases he with ⟨p, he⟩ | ⟨ps, he⟩
      · exact reads.cause_one he hlimit
      · exact reads.cause_many he hlimit
    refine hcases.imp_left ?_
    rintro ⟨fault, rfl⟩
    exact ⟨fault, rfl⟩

theorem Engine.Reads.compileSingle_of_named (reads : E.Reads L) {ps : List String} {i : Nat}
    {fault : Pattern.Fault} (he : E.compileCombined ps = .error (.pattern i fault)) :
    ∃ p fault', ps[i]? = some p ∧ E.compileSingle p = .error (.pattern 0 fault') := by
  cases reads with
  | general c reads => exact General.compileSingle_of_named reads he
  | dense c reads => exact absurd he (Dense.compileCombined_ne_named reads)

/-- A set over an engine that refuses together only what it refuses alone fails for a limit. -/
theorem PatternSet.Reachable.exists_limit_of_compile {s : PatternSet E} {source : BuildError}
    (reached : s.Reachable)
    (alone : E.RefusesTogether s.patterns → ∃ p ∈ s.patterns, E.Refuses p)
    (he : s.compile.answer = .error (.setCompilation source)) :
    ∃ limit, source.limit? = some limit := by
  rw [← Option.ne_none_iff_exists']
  intro hlimit
  rcases compile_cases s with
    ⟨-, heq⟩ | ⟨hstage, source', htogether, heq⟩ | ⟨-, combined, -, heq⟩
  · rw [heq] at he
    cases he
  · rw [heq] at he
    obtain rfl := Error.setCompilation.inj (Except.error.inj he)
    obtain ⟨p, hmem, e, hp, -⟩ := alone ⟨source', htogether, hlimit⟩
    have hs := reached.consistent_unused
    rw [PatternSet.unused, hstage] at hs
    obtain ⟨single, hsingle⟩ := hs.accepted p hmem
    rw [hsingle] at hp
    cases hp
  · rw [heq] at he
    cases he

/-- Patterns are refused together, for another reason than a limit of size, exactly if one of them
is refused alone for such a reason: it cannot be read, or has an edge of a Unicode word. A pattern
that is named then is one that is refused alone since it cannot be read. So a set, whose patterns
were all accepted, fails to compile only for a limit. -/
theorem refused_together_iff_alone (reads : E.Reads L) :
    (∀ ps, E.RefusesTogether ps ↔ ∃ p ∈ ps, E.Refuses p) ∧
      (∀ e : BuildError, e.limit? = none →
        (∃ p, E.compileSingle p = .error e) ∨ (∃ ps, E.compileCombined ps = .error e) →
          (∃ fault, e.fault? = some fault) ∨ e = .unicodeWordEdge) ∧
      (∀ ps i fault, E.compileCombined ps = .error (.pattern i fault) →
        ∃ p fault', ps[i]? = some p ∧ E.compileSingle p = .error (.pattern 0 fault')) ∧
      ∀ s : PatternSet E, s.Reachable → ∀ source,
        s.compile.answer = .error (.setCompilation source) →
          ∃ limit, source.limit? = some limit := by
  refine ⟨reads.refusesTogether_iff, ?_, ?_, ?_⟩
  · intro e hlimit he
    exact reads.fault_or_edge hlimit he
  · intro ps i fault he
    exact reads.compileSingle_of_named he
  · intro s reached source he
    exact reached.exists_limit_of_compile (reads.refusesTogether_iff s.patterns).1 he

/-- Limits that no automaton is within; a plain text alone needs none. -/
def cramped : General.Config := { combinedLimit? := some 0, automatonLimit? := some 0 }

def crampedSet : PatternSet (General.engine General.walking cramped) :=
  (PatternSet.new _ .start).after [.add "a", .add "(", .add "ab"]

/-- Two texts are accepted alone and exceed the limit together. Of two patterns that are no
patterns, the second one is named if it is the one whose text cannot be read. -/
theorem accepted_texts_exceed_limit :
    (General.engine General.walking cramped).Reads .walks ∧ crampedSet.Reachable ∧
      crampedSet.patterns = ["a", "ab"] ∧
      crampedSet.compile.answer = .error (.setCompilation (.automaton (.tooLarge 0))) ∧
      (∃ limit, (BuildError.automaton (.tooLarge 0)).limit? = some limit) ∧
      ¬ (General.engine General.walking cramped).RefusesTogether crampedSet.patterns ∧
      (General.engine General.walking cramped).compileCombined ["\\p\x7bNone\x7d", "("] =
        .error (.pattern 1 .groupUnclosed) ∧
      ∃ p fault, ["\\p\x7bNone\x7d", "("][1]? = some p ∧
        (General.engine General.walking cramped).compileSingle p = .error (.pattern 0 fault) := by
  have reads : (General.engine General.walking cramped).Reads .walks :=
    .general cramped General.reads_walking
  have reached : crampedSet.Reachable := (PatternSet.Reachable.new .start).after _
  have hpatterns : crampedSet.patterns = ["a", "ab"] := by cbv
  have hfails : crampedSet.compile.answer =
      .error (.setCompilation (.automaton (.tooLarge 0))) := by cbv
  have hnamed : (General.engine General.walking cramped).compileCombined
      ["\\p\x7bNone\x7d", "("] = .error (.pattern 1 .groupUnclosed) := by cbv
  have halone : ∀ p ∈ ["a", "ab"], ¬ (General.engine General.walking cramped).Refuses p := by
    have ha : (General.engine General.walking cramped).compileSingle "a" =
        .ok (.char (.singleton 0x61)) := by cbv
    have hab : (General.engine General.walking cramped).compileSingle "ab" =
        .ok (.cat 0 (.char (.singleton 0x61)) (.char (.singleton 0x62))) := by cbv
    rw [List.forall_mem_cons, List.forall_mem_singleton, Engine.Refuses, Engine.Refuses, ha, hab]
    exact ⟨not_refused_ok _, not_refused_ok _⟩
  obtain ⟨htogether, -, hname, hset⟩ := refused_together_iff_alone reads
  refine ⟨reads, reached, hpatterns, hfails, hset _ reached _ hfails, ?_, hnamed,
    hname _ 1 _ hnamed⟩
  rw [htogether, hpatterns]
  rintro ⟨p, hmem, hrefuses⟩
  exact halone p hmem hrefuses

end Reads

end Multimatch
