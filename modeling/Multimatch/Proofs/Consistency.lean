import Multimatch.Proofs.Contract
import Multimatch.Proofs.Run

/-!
# How the parts of a set belong together

A set holds its patterns, a handle for each of them if it needs their spans, the combined matcher
once it is compiled, and buffers. `Consistent` says that these stay aligned. It holds of every
reachable set if the engine leaves buffers as large as they are; their contents are left open, since
a search finds in them what an earlier one left.
-/
namespace Multimatch

/-- New buffers have the capacity, and so have those that are kept. -/
structure Scratch.Fits (scratch : Scratch) (n : Nat) : Prop where
  capacity_eq : scratch.capacity = n
  idle_capacity : ∀ buffer ∈ scratch.idle, buffer.capacity = n

theorem Scratch.fits_new (n : Nat) : (Scratch.new n).Fits n :=
  ⟨rfl, fun _ hb => absurd hb List.not_mem_nil⟩

theorem Scratch.Fits.lend {scratch : Scratch} {n : Nat} (hf : scratch.Fits n) :
    scratch.lend.1.capacity = n ∧ scratch.lend.2.Fits n := by
  unfold Scratch.lend
  cases hidle : scratch.idle with
  | nil => exact ⟨by rw [Candidates.capacity_new, hf.capacity_eq], hf⟩
  | cons buffer rest =>
    have hall := hf.idle_capacity
    rw [hidle, List.forall_mem_cons] at hall
    exact ⟨hall.1, hf.capacity_eq, hall.2⟩

/-- A borrowed buffer, once cleared, is like a new one. -/
theorem Scratch.Fits.clear_lend {scratch : Scratch} {n : Nat} (hf : scratch.Fits n) :
    scratch.lend.1.clear = .new n := by
  unfold Candidates.clear
  rw [hf.lend.1]

theorem Scratch.Fits.giveBack {scratch : Scratch} {n : Nat} {buffer : Candidates}
    (hf : scratch.Fits n) (hb : buffer.capacity = n) : (scratch.giveBack buffer).Fits n :=
  ⟨hf.capacity_eq, List.forall_mem_cons.2 ⟨hb, hf.idle_capacity⟩⟩

namespace PatternSet

variable {E : Engine}

/-- The parts of a set agree with its patterns. -/
structure Consistent (s : PatternSet E) : Prop where
  accepted : ∀ p ∈ s.patterns, ∃ single, E.compileSingle p = .ok single
  verifiers_eq : s.anchor.needsSpan = true → s.isFailed = false → E.Handles s.patterns s.verifiers
  no_verifiers : s.anchor.needsSpan = false ∨ s.isFailed = true → s.verifiers = []
  compiled : ∀ (combined : E.Combined) (scratch : Scratch), s.stage = .compiled combined scratch →
    E.compileCombined s.patterns = .ok combined ∧ scratch.Fits s.size

theorem consistent_new (anchor : Anchor) : (new E anchor).Consistent where
  accepted p hp := absurd hp List.not_mem_nil
  verifiers_eq _ _ := .nil
  no_verifiers _ := rfl
  compiled combined scratch hstage := by cases hstage

/-- What is left behind has no part. -/
theorem consistent_left (s : PatternSet E) : s.take.2.Consistent where
  accepted p hp := absurd hp List.not_mem_nil
  verifiers_eq _ hfailed := by cases hfailed
  no_verifiers _ := rfl
  compiled combined scratch hstage := by cases hstage

namespace Consistent

variable {s : PatternSet E}

theorem extended (hs : s.Consistent) (hstage : s.stage = .building) {p : String}
    {single : E.Single} (hp : E.compileSingle p = .ok single) :
    (s.extended p single).Consistent := by
  have hfailed : s.isFailed = false := by rw [isFailed, hstage]
  refine ⟨fun q hq => ?_, fun hspan _ => ?_, fun hnone => ?_, fun combined scratch h => ?_⟩
  · rcases List.mem_append.1 hq with hold | hnew
    · exact hs.accepted q hold
    · rw [List.mem_singleton.1 hnew]
      exact ⟨single, hp⟩
  · change s.anchor.needsSpan = true at hspan
    rw [PatternSet.extended, if_pos hspan]
    exact (hs.verifiers_eq hspan hfailed).append hp
  · have hspan : s.anchor.needsSpan = false := by
      rcases hnone with hspan | hf
      · exact hspan
      · change s.isFailed = true at hf
        rw [hfailed] at hf
        cases hf
    rw [PatternSet.extended, hspan]
    exact hs.no_verifiers (.inl hspan)
  · change s.stage = .compiled combined scratch at h
    rw [hstage] at h
    cases h

theorem add (hs : s.Consistent) (p : String) : (s.add p).set.Consistent := by
  rcases add_cases s p with ⟨_, heq⟩ | ⟨_, source, _, heq⟩ | ⟨hstage, single, hp, heq⟩
  · rw [heq]
    exact hs
  · rw [heq]
    exact hs
  · rw [heq]
    exact hs.extended hstage hp

theorem compile (hs : s.Consistent) : s.compile.set.Consistent := by
  rcases compile_cases s with
    ⟨_, heq⟩ | ⟨_, source, _, heq⟩ | ⟨hstage, combined, htogether, heq⟩
  · rw [heq]
    exact hs
  · rw [heq]
    refine ⟨hs.accepted, fun _ hf => ?_, fun _ => rfl, fun _ _ h => ?_⟩
    · cases hf
    · cases h
  · have hfailed : s.isFailed = false := by rw [isFailed, hstage]
    rw [heq]
    refine ⟨hs.accepted, fun hspan _ => hs.verifiers_eq hspan hfailed, fun hnone => ?_,
      fun _ _ h => ?_⟩
    · rcases hnone with hspan | hf
      · exact hs.no_verifiers (.inl hspan)
      · cases hf
    · cases h
      exact ⟨htogether, Scratch.fits_new _⟩

/-- The handles that the patterns of a compiled set were given, kept or not. -/
theorem compiles (hs : s.Consistent) {combined : E.Combined} {scratch : Scratch}
    (hstage : s.stage = .compiled combined scratch) :
    ∃ singles, E.Compiles s.patterns singles combined ∧
      (s.anchor.needsSpan = true → s.verifiers = singles) := by
  have htogether := (hs.compiled combined scratch hstage).1
  cases hspan : s.anchor.needsSpan with
  | true =>
    have hfailed : s.isFailed = false := by rw [isFailed, hstage]
    exact ⟨s.verifiers, ⟨hs.verifiers_eq hspan hfailed, htogether⟩, fun _ => rfl⟩
  | false =>
    obtain ⟨singles, halone⟩ := Engine.exists_handles hs.accepted
    exact ⟨singles, ⟨halone, htogether⟩, fun hf => absurd hf Bool.false_ne_true⟩

/-- The combined matcher leaves the capacity of the buffer as it is. -/
theorem whichMatch_capacity (hs : s.Consistent) (keeps : E.KeepsCapacity) {combined : E.Combined}
    {scratch : Scratch} (hstage : s.stage = .compiled combined scratch) (h : Haystack) :
    (E.whichMatch combined h (.new s.size)).1.capacity = s.size := by
  obtain ⟨singles, hcompiles, _⟩ := hs.compiles hstage
  exact keeps s.patterns singles combined hcompiles h

theorem returned_fits (hs : s.Consistent) (keeps : E.KeepsCapacity) {combined : E.Combined}
    {scratch : Scratch} (hstage : s.stage = .compiled combined scratch) (h : Haystack) :
    (returned combined scratch h).Fits s.size := by
  have hfits := (hs.compiled combined scratch hstage).2
  unfold returned
  rw [hfits.clear_lend]
  exact hfits.lend.2.giveBack (hs.whichMatch_capacity keeps hstage h)

/-- Other buffers of the right capacity do not matter. -/
theorem finish (hs : s.Consistent) {combined : E.Combined} {scratch scratch' : Scratch}
    (hstage : s.stage = .compiled combined scratch) (hfits : scratch'.Fits s.size) {α : Type}
    (found : Finding α) : (s.finish combined scratch' found).set.Consistent := by
  have hfailed : s.isFailed = false := by rw [isFailed, hstage]
  refine ⟨hs.accepted, fun hspan _ => hs.verifiers_eq hspan hfailed, fun hnone => ?_,
    fun _ _ heq => ?_⟩
  · rcases hnone with hspan | hf
    · exact hs.no_verifiers (.inl hspan)
    · cases hf
  · cases heq
    exact ⟨(hs.compiled combined scratch hstage).1, hfits⟩

theorem isMatch_of_keeps (hs : s.Consistent) (keeps : E.KeepsCapacity) (h : Haystack) :
    (s.isMatch h).set.Consistent := by
  rcases isMatch_cases s h with
    ⟨_, heq⟩ | ⟨combined, scratch, scratch', found, hstage, hscratch, _, heq⟩
  · rw [heq]
    exact hs
  · have hfits : scratch'.Fits s.size := by
      rcases hscratch with rfl | rfl
      · exact (hs.compiled combined scratch' hstage).2
      · exact hs.returned_fits keeps hstage h
    rw [heq]
    exact hs.finish hstage hfits found

theorem matchesOf_of_keeps (hs : s.Consistent) (keeps : E.KeepsCapacity) (h : Haystack) :
    (s.matchesOf h).set.Consistent := by
  rcases matchesOf_cases s h with ⟨_, heq⟩ | ⟨combined, scratch, found, hstage, _, heq⟩
  · rw [heq]
    exact hs
  · rw [heq]
    exact hs.finish hstage (hs.returned_fits keeps hstage h) found

/-- Every operation keeps the parts aligned. -/
theorem perform (hs : s.Consistent) (keeps : E.KeepsCapacity) (op : Operation) :
    (s.perform op).set.Consistent := by
  cases op with
  | add pattern => exact hs.add pattern
  | compile => exact hs.compile
  | isMatch h => exact hs.isMatch_of_keeps keeps h
  | matchesOf h => exact hs.matchesOf_of_keeps keeps h

theorem isMatch (hs : s.Consistent) (inserts : E.OnlyInserts) (h : Haystack) :
    (s.isMatch h).set.Consistent :=
  hs.isMatch_of_keeps inserts.keepsCapacity h

theorem matchesOf (hs : s.Consistent) (inserts : E.OnlyInserts) (h : Haystack) :
    (s.matchesOf h).set.Consistent :=
  hs.matchesOf_of_keeps inserts.keepsCapacity h

end Consistent

/-- The parts of every reachable set are aligned. -/
theorem Reachable.consistent_of_keeps {s : PatternSet E} (hs : Reachable s)
    (keeps : E.KeepsCapacity) : s.Consistent := by
  induction hs with
  | new anchor => exact consistent_new anchor
  | perform op _ ih => exact ih.perform keeps op
  | taken _ ih => exact ih
  | left _ _ => exact consistent_left _

theorem Reachable.consistent {s : PatternSet E} (hs : Reachable s) (inserts : E.OnlyInserts) :
    s.Consistent :=
  hs.consistent_of_keeps inserts.keepsCapacity

/-! ## Whatever becomes of the buffers -/

/-- The set with new buffers, if it has any. -/
def unused (s : PatternSet E) : PatternSet E :=
  match s.stage with
  | .compiled combined _ => { s with stage := .compiled combined (.new s.size) }
  | .building | .failed => s

theorem unused_of_compiled {s : PatternSet E} {combined : E.Combined} {scratch : Scratch}
    (hstage : s.stage = .compiled combined scratch) :
    s.unused = { s with stage := .compiled combined (.new s.size) } := by
  rw [unused, hstage]

theorem Consistent.unused {s : PatternSet E} (hs : s.Consistent) : s.unused.Consistent := by
  cases hstage : s.stage with
  | building | failed => rwa [PatternSet.unused, hstage]
  | compiled combined scratch =>
    rw [unused_of_compiled hstage]
    exact hs.finish hstage (Scratch.fits_new s.size) (⟨.ok (), []⟩ : Finding Unit)

/-- A set that is no longer built up changes in its buffers only. -/
theorem unused_perform {s : PatternSet E} (hnot : s.stage ≠ .building) (op : Operation) :
    (s.perform op).set.unused = s.unused := by
  have hfinish : ∀ {α : Type} (combined : E.Combined) (scratch scratch' : Scratch)
      (found : Finding α), s.stage = .compiled combined scratch →
        (s.finish combined scratch' found).set.unused = s.unused := by
    intro α combined scratch scratch' found hstage
    rw [unused_of_compiled hstage]
    rfl
  cases op with
  | add p =>
    change (s.add p).set.unused = s.unused
    rcases add_cases s p with ⟨_, heq⟩ | ⟨hstage, _⟩ | ⟨hstage, _⟩
    · rw [heq]
    · exact absurd hstage hnot
    · exact absurd hstage hnot
  | compile =>
    change s.compile.set.unused = s.unused
    rcases compile_cases s with ⟨_, heq⟩ | ⟨hstage, _⟩ | ⟨hstage, _⟩
    · rw [heq]
    · exact absurd hstage hnot
    · exact absurd hstage hnot
  | isMatch h =>
    change (s.isMatch h).set.unused = s.unused
    rcases isMatch_cases s h with ⟨_, heq⟩ | ⟨combined, scratch, scratch', found, hstage, _, _, heq⟩
    · rw [heq]
      rfl
    · rw [heq, hfinish combined scratch scratch' found hstage]
  | matchesOf h =>
    change (s.matchesOf h).set.unused = s.unused
    rcases matchesOf_cases s h with ⟨_, heq⟩ | ⟨combined, scratch, found, hstage, _, heq⟩
    · rw [heq]
      rfl
    · rw [heq, hfinish combined scratch _ found hstage]

/-- While it is built up, a set makes no use of buffers. -/
theorem Consistent.perform_building {s : PatternSet E} (hs : s.Consistent)
    (hstage : s.stage = .building) (op : Operation) : (s.perform op).set.Consistent := by
  have hc : s.isCompiled = false := by rw [isCompiled, hstage]
  cases op with
  | add p => exact hs.add p
  | compile => exact hs.compile
  | isMatch h =>
    change (s.isMatch h).set.Consistent
    rw [isMatch_early hc]
    exact hs
  | matchesOf h =>
    change (s.matchesOf h).set.Consistent
    rw [matchesOf_early hc]
    exact hs

/-- The parts of a reachable set but for its buffers are aligned, whatever the engine does to
those. -/
theorem Reachable.consistent_unused {s : PatternSet E} (hs : Reachable s) :
    s.unused.Consistent := by
  induction hs with
  | new anchor => exact (consistent_new anchor).unused
  | @perform s op _ ih =>
    by_cases hstage : s.stage = .building
    · have hsame : s.unused = s := by rw [PatternSet.unused, hstage]
      rw [hsame] at ih
      exact (ih.perform_building hstage op).unused
    · rw [unused_perform hstage op]
      exact ih
  | taken _ ih => exact ih
  | left _ _ => exact (consistent_left _).unused

end PatternSet

end Multimatch
