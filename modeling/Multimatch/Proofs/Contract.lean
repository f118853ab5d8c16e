import Mathlib.Data.List.Forall2
import Multimatch.Engine.Tabulated

/-!
# What engines promise

`Engine` promises nothing by itself: any functions will do. `OnlyInserts` says what the combined
matcher may do to a buffer, `KeepsCapacity` the least of it that sets rely on, and `Exact` that it
agrees with the patterns compiled alone; an engine may also agree on some haystacks only. All of
them speak only of handles made of patterns that the engine accepts, and of empty buffers with room
for just these: a set makes no other calls. What engines for regular expressions keep of it follows
from what their backends promise.
-/
namespace Multimatch.Engine

variable {E : Engine}

/-- The handles of patterns compiled alone, in order. -/
def Handles (E : Engine) (patterns : List String) (singles : List E.Single) : Prop :=
  List.Forall₂ (fun p single => E.compileSingle p = .ok single) patterns singles

/-- The handles of patterns, one by one and all together. -/
structure Compiles (E : Engine) (patterns : List String) (singles : List E.Single)
    (combined : E.Combined) : Prop where
  alone : E.Handles patterns singles
  together : E.compileCombined patterns = .ok combined

/-- The combined matcher touches a buffer only by inserting indices that fit in it. -/
def OnlyInserts (E : Engine) : Prop :=
  ∀ (patterns : List String) (singles : List E.Single) (combined : E.Combined),
    E.Compiles patterns singles combined → ∀ h : Haystack,
      ∃ indices : List Nat, (∀ i ∈ indices, i < patterns.length) ∧
        (E.whichMatch combined h (.new patterns.length)).1 =
          (Candidates.new patterns.length).insertAll indices

/-- The combined matcher may do to a buffer what it likes, but for making it larger or smaller. -/
def KeepsCapacity (E : Engine) : Prop :=
  ∀ (patterns : List String) (singles : List E.Single) (combined : E.Combined),
    E.Compiles patterns singles combined → ∀ h : Haystack,
      (E.whichMatch combined h (.new patterns.length)).1.capacity = patterns.length

theorem OnlyInserts.keepsCapacity (inserts : E.OnlyInserts) : E.KeepsCapacity := by
  intro patterns singles combined hc h
  obtain ⟨indices, -, heq⟩ := inserts patterns singles combined hc h
  rw [heq, Candidates.capacity_insertAll, Candidates.capacity_new]

/-- A pattern matches somewhere in the haystack, by its own handle. -/
def Finds (E : Engine) (single : E.Single) (h : Haystack) : Prop :=
  ∃ span, E.findFirst single h = .ok (some span)

/-- On a haystack, no search of one pattern fails, and what is found among patterns compiled
together is what is found alone. -/
structure ExactOn (E : Engine) (h : Haystack) : Prop where
  first_found : ∀ (p : String) (single : E.Single), E.compileSingle p = .ok single →
    ∃ first, E.findFirst single h = .ok first
  inserts_found : ∀ (patterns : List String) (singles : List E.Single) (combined : E.Combined),
    E.Compiles patterns singles combined →
      ∃ indices : List Nat,
        E.whichMatch combined h (.new patterns.length) =
          ((Candidates.new patterns.length).insertAll indices, .ok ()) ∧
        ∀ i, i ∈ indices ↔ ∃ single, singles[i]? = some single ∧ E.Finds single h

/-- No search fails, and what matches among patterns compiled together is what matches alone. -/
structure Exact (E : Engine) : Prop where
  on : ∀ h, E.ExactOn h
  any_found : ∀ (patterns : List String) (singles : List E.Single) (combined : E.Combined),
    E.Compiles patterns singles combined → ∀ h : Haystack,
      ∃ any, E.isMatch combined h = .ok any ∧ (any = true ↔ ∃ single ∈ singles, E.Finds single h)

theorem Handles.length_eq {patterns : List String} {singles : List E.Single}
    (hs : E.Handles patterns singles) : patterns.length = singles.length :=
  List.Forall₂.length_eq hs

theorem Handles.append {patterns : List String} {singles : List E.Single} {p : String}
    {single : E.Single} (hs : E.Handles patterns singles) (hp : E.compileSingle p = .ok single) :
    E.Handles (patterns ++ [p]) (singles ++ [single]) :=
  List.rel_append hs (.cons hp .nil)

theorem Handles.unique {patterns : List String} {singles singles' : List E.Single}
    (hs : E.Handles patterns singles) (hs' : E.Handles patterns singles') : singles = singles' :=
  List.right_unique_forall₂' (fun _ _ _ h h' => Except.ok.inj (h.symm.trans h')) hs hs'

/-- The handle at an index is the one of the pattern at that index. -/
theorem Handles.getElem?_eq_some_iff {patterns : List String} {singles : List E.Single}
    (hs : E.Handles patterns singles) {i : Nat} {single : E.Single} :
    singles[i]? = some single ↔ ∃ p, patterns[i]? = some p ∧ E.compileSingle p = .ok single := by
  induction hs generalizing i with
  | nil => simp
  | @cons p s ps ss hp _ ih =>
    cases i with
    | zero =>
      simp only [List.getElem?_cons_zero, Option.some.injEq, exists_eq_left', hp, Except.ok.injEq]
    | succ i => simpa only [List.getElem?_cons_succ] using ih

/-- Patterns that compile alone, each for itself, have handles. -/
theorem exists_handles {patterns : List String}
    (hall : ∀ p ∈ patterns, ∃ single, E.compileSingle p = .ok single) :
    ∃ singles, E.Handles patterns singles := by
  induction patterns with
  | nil => exact ⟨[], .nil⟩
  | cons p ps ih =>
    obtain ⟨single, hp⟩ := hall p List.mem_cons_self
    obtain ⟨singles, hs⟩ := ih fun q hq => hall q (List.mem_cons_of_mem p hq)
    exact ⟨single :: singles, .cons hp hs⟩

/-- An engine that finds together what it finds alone inserts only the indices of patterns. -/
theorem onlyInserts_of_exactOn (exact : ∀ h, E.ExactOn h) : E.OnlyInserts := by
  intro patterns singles combined hc h
  obtain ⟨indices, hwhich, hmem⟩ := (exact h).inserts_found patterns singles combined hc
  refine ⟨indices, fun i hi => ?_, by rw [hwhich]⟩
  obtain ⟨single, hsingle, _⟩ := (hmem i).1 hi
  rw [hc.alone.length_eq]
  exact (List.getElem?_eq_some_iff.1 hsingle).1

theorem Exact.onlyInserts (exact : E.Exact) : E.OnlyInserts := onlyInserts_of_exactOn exact.on

end Multimatch.Engine

/-! ## Engines whose answers are written out -/

namespace Multimatch.Tabulated

variable {a : Answers} {h : Haystack}

theorem compileSingle_eq_ok {p single : String}
    (hp : (engine a).compileSingle p = .ok single) : single = p := by
  simp only [engine] at hp
  split at hp
  · cases hp
  · exact (Except.ok.inj hp).symm

theorem compileCombined_eq_ok {ps combined : List String}
    (hp : (engine a).compileCombined ps = .ok combined) : combined = ps := by
  simp only [engine] at hp
  split at hp
  · cases hp
  · exact (Except.ok.inj hp).symm

theorem handles_eq {ps singles : List String} (hs : (engine a).Handles ps singles) :
    singles = ps := by
  induction hs with
  | nil => rfl
  | cons hp _ ih => rw [compileSingle_eq_ok hp, ih]

/-- Whatever the answers, collecting candidates inserts indices of the patterns gone through. -/
theorem collect_eq_insertAll (index : Nat) (found : Candidates) (ps : List String) :
    ∃ indices : List Nat, (∀ i ∈ indices, i < index + ps.length) ∧
      (a.collect h index found ps).1 = found.insertAll indices := by
  induction ps generalizing index found with
  | nil => exact ⟨[], by simp, rfl⟩
  | cons p ps ih =>
    have hlen : index + 1 + ps.length = index + (p :: ps).length := by
      rw [List.length_cons]
      omega
    have hskip := ih (index + 1) found
    rw [hlen] at hskip
    rw [Answers.collect]
    split
    · exact hskip
    · split
      · exact ⟨[], by simp, rfl⟩
      · obtain ⟨indices, hlt, heq⟩ := ih (index + 1) (found.insert index)
        refine ⟨index :: indices, ?_, heq⟩
        rw [← hlen, List.forall_mem_cons]
        exact ⟨by omega, hlt⟩
      · exact hskip

theorem onlyInserts (a : Answers) : (engine a).OnlyInserts := by
  intro patterns singles combined hc h
  obtain ⟨indices, hlt, heq⟩ :=
    collect_eq_insertAll (a := a) (h := h) 0 (.new patterns.length) patterns
  rw [compileCombined_eq_ok hc.together]
  refine ⟨indices, fun i hi => ?_, heq⟩
  have := hlt i hi
  omega

/-- Every rule makes a candidate of a pattern exactly if it has a span for it, and nothing fails. -/
structure Answers.Coherent (a : Answers) : Prop where
  no_other_answers : a.anyMatch = []
  candidate_iff_span : ∀ r ∈ a.rules,
    ∃ first, r.first = .ok first ∧ r.candidate = .ok first.isSome

theorem finds_iff {p : String} :
    (engine a).Finds p h ↔ ∃ r span, a.rule? p h = some r ∧ r.first = .ok (some span) := by
  unfold Engine.Finds
  simp only [engine]
  cases a.rule? p h with
  | none => simp
  | some r => simp

/-- What the rule for a pattern says, if there is one. -/
theorem Answers.Coherent.rule?_cases (coherent : a.Coherent) (p : String) :
    (a.rule? p h = none ∧ ¬ (engine a).Finds p h) ∨
      ∃ r first, a.rule? p h = some r ∧ r.first = .ok first ∧ r.candidate = .ok first.isSome ∧
        (first.isSome = true ↔ (engine a).Finds p h) := by
  cases hr : a.rule? p h with
  | none => exact .inl ⟨rfl, by rw [finds_iff, hr]; simp⟩
  | some r =>
    obtain ⟨first, hfirst, hcand⟩ := coherent.candidate_iff_span r (List.mem_of_find?_eq_some hr)
    refine .inr ⟨r, first, rfl, hfirst, hcand, ?_⟩
    rw [finds_iff, hr, Option.isSome_iff_exists]
    simp [hfirst]

/-- With coherent answers, the indices inserted are those of the patterns that match alone. -/
theorem Answers.Coherent.collect_eq (coherent : a.Coherent) (index : Nat) (found : Candidates)
    (ps : List String) :
    ∃ indices : List Nat, a.collect h index found ps = (found.insertAll indices, .ok ()) ∧
      ∀ i, i ∈ indices ↔ ∃ j p, i = index + j ∧ ps[j]? = some p ∧ (engine a).Finds p h := by
  induction ps generalizing index found with
  | nil => exact ⟨[], rfl, by simp⟩
  | cons p ps ih =>
    have hsplit : ∀ i, (∃ j q, i = index + j ∧ (p :: ps)[j]? = some q ∧ (engine a).Finds q h) ↔
        (i = index ∧ (engine a).Finds p h) ∨
          ∃ j q, i = index + 1 + j ∧ ps[j]? = some q ∧ (engine a).Finds q h := by
      intro i
      constructor
      · rintro ⟨j | j, q, rfl, hq, hfinds⟩
        · obtain rfl := Option.some.inj hq
          exact .inl ⟨rfl, hfinds⟩
        · exact .inr ⟨j, q, by omega, hq, hfinds⟩
      · rintro (⟨rfl, hfinds⟩ | ⟨j, q, rfl, hq, hfinds⟩)
        · exact ⟨0, p, rfl, rfl, hfinds⟩
        · exact ⟨j + 1, q, by omega, hq, hfinds⟩
    rw [Answers.collect]
    rcases coherent.rule?_cases (h := h) p with
      ⟨hr, hnot⟩ | ⟨r, first, hr, -, hcand, hfinds⟩
    · obtain ⟨indices, heq, hmem⟩ := ih (index + 1) found
      exact ⟨indices, by rw [hr]; exact heq, fun i => by rw [hsplit, hmem]; simp [hnot]⟩
    · cases hsome : first.isSome with
      | false =>
        obtain ⟨indices, heq, hmem⟩ := ih (index + 1) found
        have hnot : ¬ (engine a).Finds p h := fun hf => by simp [hfinds.2 hf] at hsome
        refine ⟨indices, ?_, fun i => by rw [hsplit, hmem]; simp [hnot]⟩
        simp only [hr, hcand, hsome]
        exact heq
      | true =>
        obtain ⟨indices, heq, hmem⟩ := ih (index + 1) (found.insert index)
        refine ⟨index :: indices, ?_, fun i => ?_⟩
        · simp only [hr, hcand, hsome]
          exact heq
        · rw [hsplit, List.mem_cons, hmem]
          simp [hfinds.1 hsome]

theorem Answers.Coherent.anyCandidate_eq (coherent : a.Coherent) (ps : List String) :
    ∃ any, a.anyCandidate h ps = .ok any ∧
      (any = true ↔ ∃ p ∈ ps, (engine a).Finds p h) := by
  induction ps with
  | nil => exact ⟨false, rfl, by simp⟩
  | cons p ps ih =>
    obtain ⟨any, heq, hany⟩ := ih
    rw [Answers.anyCandidate]
    rcases coherent.rule?_cases (h := h) p with
      ⟨hr, hnot⟩ | ⟨r, first, hr, -, hcand, hfinds⟩
    · exact ⟨any, by rw [hr]; exact heq, by rw [hany]; simp [hnot]⟩
    · cases hsome : first.isSome with
      | false =>
        have hnot : ¬ (engine a).Finds p h := fun hf => by simp [hfinds.2 hf] at hsome
        exact ⟨any, by simp only [hr, hcand, hsome]; exact heq, by rw [hany]; simp [hnot]⟩
      | true => exact ⟨true, by simp only [hr, hcand, hsome], by simp [hfinds.1 hsome]⟩

/-- Coherent answers make an exact engine. -/
theorem Answers.Coherent.exact (coherent : a.Coherent) : (engine a).Exact where
  on h := {
    first_found := by
      intro p single _
      simp only [engine]
      cases hr : a.rule? single h with
      | none => exact ⟨none, rfl⟩
      | some r =>
        obtain ⟨first, hfirst, _⟩ := coherent.candidate_iff_span r (List.mem_of_find?_eq_some hr)
        exact ⟨first, hfirst⟩
    inserts_found := by
      intro ps singles combined hc
      obtain ⟨indices, heq, hmem⟩ := coherent.collect_eq (h := h) 0 (.new ps.length) ps
      rw [compileCombined_eq_ok hc.together, handles_eq hc.alone]
      have hmem' : ∀ i, i ∈ indices ↔ ∃ p, ps[i]? = some p ∧ (engine a).Finds p h := by
        simpa using hmem
      exact ⟨indices, heq, hmem'⟩ }
  any_found ps singles combined hc h := by
    obtain ⟨any, heq, hany⟩ := coherent.anyCandidate_eq (h := h) ps
    rw [compileCombined_eq_ok hc.together, handles_eq hc.alone]
    refine ⟨any, ?_, hany⟩
    simp only [engine, coherent.no_other_answers, List.find?_nil]
    exact heq

end Multimatch.Tabulated
