import Multimatch.Proofs.Lifecycle
import Multimatch.Proofs.Searching

/-!
# Operations that leave no trace

An operation that fails leaves a set as it was, and so does every search; only a compilation that
fails moves the set on. What is left of a set otherwise is buffers, in which no later search finds
anything. So such operations can be taken out of a run, any of them, and nothing shows: not in the
answers and the log of the others, and not in anything done with the set afterwards.
-/
namespace Multimatch

/-- An operation with its answer and what the log was told. -/
structure Entry where
  op : Operation
  answer : Except Error Value
  events : List Event

namespace Entry

/-- Entries that can be taken out: those of searches, and those of operations that failed, unless
it was the compilation of the set that failed. -/
inductive Removable : Entry → Prop
  | isMatch (h : Haystack) (answer : Except Error Value) (events : List Event) :
      Removable ⟨.isMatch h, answer, events⟩
  | matchesOf (h : Haystack) (answer : Except Error Value) (events : List Event) :
      Removable ⟨.matchesOf h, answer, events⟩
  | patternSyntax (op : Operation) (p : String) (source : BuildError) (events : List Event) :
      Removable ⟨op, .error (.patternSyntax p source), events⟩
  | alreadyFinalized (op : Operation) (events : List Event) :
      Removable ⟨op, .error .alreadyFinalized, events⟩
  | notCompiled (op : Operation) (events : List Event) :
      Removable ⟨op, .error .notCompiled, events⟩
  | matchEngine (op : Operation) (e : MatchError) (events : List Event) :
      Removable ⟨op, .error (.matchEngine e), events⟩

end Entry

/-- A record of which some entries that can be taken out are taken out, and the others kept. -/
inductive Thinned : List Entry → List Entry → Prop
  | nil : Thinned [] []
  | keep (entry : Entry) {full kept : List Entry} :
      Thinned full kept → Thinned (entry :: full) (entry :: kept)
  | remove {entry : Entry} {full kept : List Entry} :
      entry.Removable → Thinned full kept → Thinned (entry :: full) kept

/-! ## Steps of the machine -/

namespace Lifecycle.Step

variable {E : Engine} {anchor : Anchor} {l next next' : Lifecycle} {op : Operation}
  {answer answer' : Except Error Value} {notices notices' : List Notice}

/-- What comes next is settled by the operation. -/
theorem next_unique (hstep : Step E anchor l op answer notices next)
    (hstep' : Step E anchor l op answer' notices' next') : next = next' := by
  cases hstep with
  | added hp =>
    cases hstep' with
    | added hp' => rfl
    | refused hp' =>
      rw [hp] at hp'
      cases hp'
    | addedLate hnot => exact absurd rfl hnot
  | refused hp =>
    cases hstep' with
    | added hp' =>
      rw [hp] at hp'
      cases hp'
    | refused hp' => rfl
    | addedLate hnot => rfl
  | compiled hall =>
    cases hstep' with
    | compiled hall' => rfl
    | failed hall' =>
      rw [hall] at hall'
      cases hall'
    | compiledTwice hnot => exact absurd rfl hnot
  | failed hall =>
    cases hstep' with
    | compiled hall' =>
      rw [hall] at hall'
      cases hall'
    | failed hall' => rfl
    | compiledTwice hnot => exact absurd rfl hnot
  | addedLate hnot =>
    cases hstep' with
    | added hp => exact absurd rfl hnot
    | refused hp => rfl
    | addedLate hnot' => rfl
  | compiledTwice hnot =>
    cases hstep' with
    | compiled hall => exact absurd rfl hnot
    | failed hall => exact absurd rfl hnot
    | compiledTwice hnot' => rfl
  | isMatchEarly hnot => cases hstep' <;> rfl
  | matchesEarly hnot => cases hstep' <;> rfl
  | isMatch result => cases hstep' <;> rfl
  | matchesOf result => cases hstep' <;> rfl

/-- An operation whose entry can be taken out changes nothing. -/
theorem next_eq_of_removable (hstep : Step E anchor l op answer notices next) {events : List Event}
    (hr : Entry.Removable ⟨op, answer, events⟩) : next = l := by
  cases hstep with
  | added hp => cases hr
  | compiled hall => cases hr
  | failed hall => cases hr
  | refused hp => rfl
  | addedLate hnot => rfl
  | compiledTwice hnot => rfl
  | isMatchEarly hnot => rfl
  | matchesEarly hnot => rfl
  | isMatch result => rfl
  | matchesOf result => rfl

end Lifecycle.Step

namespace PatternSet

variable {E : Engine} {s t : PatternSet E}

/-- The record of operations, performed one after another. -/
def record (s : PatternSet E) : List Operation → List Entry
  | [] => []
  | op :: ops => ⟨op, (s.perform op).answer, (s.perform op).events⟩ :: (s.perform op).set.record ops

/-! ## Sets that cannot be told apart -/

/-- Two sets, each with its parts aligned, that look for the same anchor and have come as far with
the same patterns. Their buffers may differ. -/
structure Twins (s t : PatternSet E) : Prop where
  left : s.Consistent
  right : t.Consistent
  anchor_eq : s.anchor = t.anchor
  lifecycle_eq : s.lifecycle = t.lifecycle

namespace Twins

theorem patterns_eq (ht : Twins s t) : s.patterns = t.patterns :=
  congrArg Lifecycle.accepted ht.lifecycle_eq

theorem stage_eq_building_iff (ht : Twins s t) : s.stage = .building ↔ t.stage = .building := by
  have hphase : s.stage.phase = t.stage.phase := congrArg Lifecycle.phase ht.lifecycle_eq
  cases hs : s.stage <;> cases ht' : t.stage <;> simp_all [Stage.phase]

theorem alike (ht : Twins s t) : Alike s t where
  anchor_eq := ht.anchor_eq
  patterns_eq := ht.patterns_eq
  isCompiled_eq := by
    have hvisible : s.visible = t.visible := by
      rw [← visible_lifecycle, ← visible_lifecycle, ht.lifecycle_eq]
    exact congrArg Visible.isCompiled hvisible

theorem add_eq (ht : Twins s t) (p : String) :
    (s.add p).answer = (t.add p).answer ∧ (s.add p).events = (t.add p).events := by
  have hsize : s.size = t.size := congrArg List.length ht.patterns_eq
  rcases add_cases s p with ⟨hnot, heq⟩ | ⟨hstage, source, hp, heq⟩ | ⟨hstage, single, hp, heq⟩
  · have hnot' : t.stage ≠ .building := fun h => hnot (ht.stage_eq_building_iff.2 h)
    rcases add_cases t p with ⟨-, heq'⟩ | ⟨hstage', -⟩ | ⟨hstage', -⟩
    · rw [heq, heq']
      exact ⟨rfl, rfl⟩
    · exact absurd hstage' hnot'
    · exact absurd hstage' hnot'
  · have hstage' := ht.stage_eq_building_iff.1 hstage
    rcases add_cases t p with ⟨hnot, -⟩ | ⟨-, source', hp', heq'⟩ | ⟨-, single', hp', -⟩
    · exact absurd hstage' hnot
    · rw [hp] at hp'
      obtain rfl := Except.error.inj hp'
      rw [heq, heq']
      exact ⟨rfl, rfl⟩
    · rw [hp] at hp'
      cases hp'
  · have hstage' := ht.stage_eq_building_iff.1 hstage
    rcases add_cases t p with ⟨hnot, -⟩ | ⟨-, source', hp', -⟩ | ⟨-, single', hp', heq'⟩
    · exact absurd hstage' hnot
    · rw [hp] at hp'
      cases hp'
    · rw [heq, heq', hsize]
      exact ⟨rfl, rfl⟩

theorem compile_eq (ht : Twins s t) :
    s.compile.answer = t.compile.answer ∧ s.compile.events = t.compile.events := by
  have hsize : s.size = t.size := congrArg List.length ht.patterns_eq
  rcases compile_cases s with
    ⟨hnot, heq⟩ | ⟨hstage, source, hall, heq⟩ | ⟨hstage, combined, hall, heq⟩
  · have hnot' : t.stage ≠ .building := fun h => hnot (ht.stage_eq_building_iff.2 h)
    rcases compile_cases t with ⟨-, heq'⟩ | ⟨hstage', -⟩ | ⟨hstage', -⟩
    · rw [heq, heq']
      exact ⟨rfl, rfl⟩
    · exact absurd hstage' hnot'
    · exact absurd hstage' hnot'
  · have hstage' := ht.stage_eq_building_iff.1 hstage
    rw [ht.patterns_eq] at hall
    rcases compile_cases t with ⟨hnot, -⟩ | ⟨-, source', hall', heq'⟩ | ⟨-, combined', hall', -⟩
    · exact absurd hstage' hnot
    · rw [hall] at hall'
      obtain rfl := Except.error.inj hall'
      rw [heq, heq']
      exact ⟨rfl, rfl⟩
    · rw [hall] at hall'
      cases hall'
  · have hstage' := ht.stage_eq_building_iff.1 hstage
    rw [ht.patterns_eq] at hall
    rcases compile_cases t with ⟨hnot, -⟩ | ⟨-, source', hall', -⟩ | ⟨-, combined', hall', heq'⟩
    · exact absurd hstage' hnot
    · rw [hall] at hall'
      cases hall'
    · rw [heq, heq', hsize, ht.anchor_eq]
      exact ⟨rfl, rfl⟩

/-- Operations are answered alike, and the log is told the same. -/
theorem perform_eq (ht : Twins s t) (op : Operation) :
    (s.perform op).answer = (t.perform op).answer ∧
      (s.perform op).events = (t.perform op).events := by
  cases op with
  | add p =>
    obtain ⟨hanswer, hevents⟩ := ht.add_eq p
    exact ⟨congrArg (Except.map Value.index) hanswer, hevents⟩
  | compile =>
    obtain ⟨hanswer, hevents⟩ := ht.compile_eq
    exact ⟨congrArg (Except.map fun _ => Value.done) hanswer, hevents⟩
  | isMatch h =>
    obtain ⟨⟨hanswer, hevents⟩, -⟩ := ht.alike.search_eq ht.left ht.right h
    exact ⟨congrArg (Except.map Value.any) hanswer, hevents⟩
  | matchesOf h =>
    obtain ⟨-, hanswer, hevents⟩ := ht.alike.search_eq ht.left ht.right h
    exact ⟨congrArg (Except.map Value.all) hanswer, hevents⟩

/-- Operations leave sets that cannot be told apart. -/
theorem perform (ht : Twins s t) (keeps : E.KeepsCapacity) (op : Operation) :
    Twins (s.perform op).set (t.perform op).set where
  left := ht.left.perform keeps op
  right := ht.right.perform keeps op
  anchor_eq := by rw [perform_anchor, perform_anchor, ht.anchor_eq]
  lifecycle_eq := by
    have hstep := perform_step s op
    have hstep' := perform_step t op
    rw [ht.anchor_eq, ht.lifecycle_eq] at hstep
    exact hstep.next_unique hstep'

/-- An operation whose entry can be taken out leaves a set that cannot be told from the one
before. -/
theorem of_removable (hs : s.Consistent) (keeps : E.KeepsCapacity) {op : Operation}
    (hr : Entry.Removable ⟨op, (s.perform op).answer, (s.perform op).events⟩) :
    Twins (s.perform op).set s where
  left := hs.perform keeps op
  right := hs
  anchor_eq := perform_anchor s op
  lifecycle_eq := (perform_step s op).next_eq_of_removable hr

theorem trans {r : PatternSet E} (ht : Twins s t) (ht' : Twins t r) : Twins s r :=
  ⟨ht.left, ht'.right, ht.anchor_eq.trans ht'.anchor_eq, ht.lifecycle_eq.trans ht'.lifecycle_eq⟩

/-! ## Runs -/

theorem record_eq (ht : Twins s t) (keeps : E.KeepsCapacity) (ops : List Operation) :
    s.record ops = t.record ops := by
  induction ops generalizing s t with
  | nil => rfl
  | cons op ops ih =>
    obtain ⟨hanswer, hevents⟩ := ht.perform_eq op
    rw [record, record, hanswer, hevents, ih (ht.perform keeps op)]

/-- Of two sets that cannot be told apart, one has all the operations of a record performed and the
other those that were kept. It gives the record that was kept, and the sets cannot be told apart
afterwards. -/
theorem thinned (ht : Twins s t) (keeps : E.KeepsCapacity) {ops : List Operation}
    {kept : List Entry} (hthin : Thinned (s.record ops) kept) :
    t.record (kept.map Entry.op) = kept ∧ Twins (s.after ops) (t.after (kept.map Entry.op)) := by
  induction ops generalizing s t kept with
  | nil =>
    cases hthin
    exact ⟨rfl, ht⟩
  | cons op ops ih =>
    rw [record] at hthin
    cases hthin with
    | keep entry hrest =>
      obtain ⟨hanswer, hevents⟩ := ht.perform_eq op
      obtain ⟨hrecord, hafter⟩ := ih (ht.perform keeps op) hrest
      refine ⟨?_, hafter⟩
      rw [List.map_cons, record, hrecord, hanswer, hevents]
    | remove hr hrest =>
      have hsame := of_removable ht.left keeps hr
      exact ih (hsame.trans ht) hrest

end Twins

theorem twins_refl (hs : s.Consistent) : Twins s s := ⟨hs, hs, rfl, rfl⟩

/-- Searches and failed operations, but for a compilation that fails, can be taken out of a run from
the start, any of them. The other operations are answered as before and tell the log the same; the
set has the same anchor, the same patterns and is at the same stage; and whatever is done with it
next comes to the same. -/
theorem removed_leave_no_trace (keeps : E.KeepsCapacity) (anchor : Anchor) (ops : List Operation)
    {kept : List Entry} (hthin : Thinned ((new E anchor).record ops) kept) :
    (new E anchor).record (kept.map Entry.op) = kept ∧
      ((new E anchor).after (kept.map Entry.op)).anchor = ((new E anchor).after ops).anchor ∧
      ((new E anchor).after (kept.map Entry.op)).patterns = ((new E anchor).after ops).patterns ∧
      ((new E anchor).after (kept.map Entry.op)).stage.phase =
        ((new E anchor).after ops).stage.phase ∧
      ∀ more, ((new E anchor).after (kept.map Entry.op)).record more =
        ((new E anchor).after ops).record more := by
  have hstart := twins_refl (consistent_new (E := E) anchor)
  obtain ⟨hrecord, hafter⟩ := hstart.thinned keeps hthin
  refine ⟨hrecord, hafter.anchor_eq.symm, hafter.patterns_eq.symm, ?_, ?_⟩
  · exact congrArg Lifecycle.phase hafter.lifecycle_eq.symm
  · intro more
    exact (hafter.record_eq keeps more).symm

/-- The answers of an engine that refuses a pattern, and that cannot search one haystack. -/
def onceRefused : Tabulated.Answers where
  refused := [("(", "unclosed")]
  rules := [⟨"a", some [98], .error (.gaveUp 0), .ok none⟩, ⟨"a", none, .ok true, .ok (some ⟨0, 1⟩)⟩]

def troubled : List Operation :=
  [.isMatch [97], .add "(", .add "a", .compile, .matchesOf [98], .matchesOf [97], .add "b",
    .isMatch [97]]

/-- What is left of the run without its failures and without the search that finds the pattern. -/
def untroubled : List Entry :=
  [⟨.add "a", .ok (.index 0), []⟩, ⟨.compile, .ok .done, [.compiled 1 .both]⟩,
    ⟨.isMatch [97], .ok (.any true), []⟩]

theorem thinned_troubled :
    Thinned ((new (Tabulated.engine onceRefused) .both).record troubled) untroubled := by
  have hrecord : (new (Tabulated.engine onceRefused) .both).record troubled =
      [⟨.isMatch [97], .error .notCompiled, [.earlySearch]⟩,
        ⟨.add "(", .error (.patternSyntax "(" (.other "unclosed")),
          [.patternRefused "(" (.other "unclosed")]⟩,
        ⟨.add "a", .ok (.index 0), []⟩,
        ⟨.compile, .ok .done, [.compiled 1 .both]⟩,
        ⟨.matchesOf [98], .error (.matchEngine (.gaveUp 0)), []⟩,
        ⟨.matchesOf [97], .ok (.all ⟨[0]⟩), []⟩,
        ⟨.add "b", .error .alreadyFinalized, [.lateAddition "b"]⟩,
        ⟨.isMatch [97], .ok (.any true), []⟩] := rfl
  rw [hrecord]
  apply Thinned.remove (.notCompiled _ _)
  apply Thinned.remove (.patternSyntax _ _ _ _)
  apply Thinned.keep
  apply Thinned.keep
  apply Thinned.remove (.matchEngine _ _ _)
  apply Thinned.remove (.matchesOf _ _ _)
  apply Thinned.remove (.alreadyFinalized _ _)
  exact .keep _ .nil

theorem untroubled_run_alike :
    (Tabulated.engine onceRefused).KeepsCapacity ∧
      Thinned ((new (Tabulated.engine onceRefused) .both).record troubled) untroubled ∧
      (new (Tabulated.engine onceRefused) .both).record [.add "a", .compile, .isMatch [97]] =
        untroubled ∧
      ((new (Tabulated.engine onceRefused) .both).after troubled).patterns = ["a"] := by
  have keeps := (Tabulated.onlyInserts onceRefused).keepsCapacity
  obtain ⟨hrecord, -, hpatterns, -, -⟩ :=
    removed_leave_no_trace keeps .both troubled thinned_troubled
  exact ⟨keeps, thinned_troubled, hrecord, hpatterns.symm⟩

end PatternSet

end Multimatch
