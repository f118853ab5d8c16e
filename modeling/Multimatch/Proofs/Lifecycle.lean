import Multimatch.Proofs.Run

/-!
# The lifecycle of a set

`Lifecycle` is what a user sees of a set: the patterns that were accepted, and how far the set has
come. `Lifecycle.Step` has a rule for each thing an operation can come to. Every run of a set is a
run of this machine, with the same answers, the same log and the same visible state. The machine
leaves open what a search in a compiled set finds, and log events below the level of debugging.
-/
namespace Multimatch

/-- The patterns accepted so far, and how far the set has come. -/
structure Lifecycle where
  accepted : List String
  phase : Phase
  deriving DecidableEq, Repr

/-- What the log shows of an event. -/
structure Notice where
  level : Level
  message : String
  details : List (String × Detail)
  deriving DecidableEq, Repr

/-- What can be read off a set at any time. -/
structure Visible where
  isCompiled : Bool
  isFailed : Bool
  size : Nat
  patterns : List String
  deriving DecidableEq, Repr

/-- What a user sees of an operation. -/
structure Observation where
  answer : Except Error Value
  notices : List Notice
  visible : Visible

namespace Lifecycle

def initial : Lifecycle := ⟨[], .building⟩

def visible (l : Lifecycle) : Visible :=
  ⟨l.phase = .compiled, l.phase = .failed, l.accepted.length, l.accepted⟩

/-- What an operation may be answered with, what the log is told, and what comes next. -/
inductive Step (E : Engine) (anchor : Anchor) :
    Lifecycle → Operation → Except Error Value → List Notice → Lifecycle → Prop
  | added {ps : List String} {p : String} {single : E.Single} :
      E.compileSingle p = .ok single →
      Step E anchor ⟨ps, .building⟩ (.add p) (.ok (.index ps.length)) [] ⟨ps ++ [p], .building⟩
  | refused {ps : List String} {p : String} {source : BuildError} :
      E.compileSingle p = .error source →
      Step E anchor ⟨ps, .building⟩ (.add p) (.error (.patternSyntax p source))
        [⟨.debug, "invalid pattern", [("pattern", .text p), ("error", .text source.message)]⟩]
        ⟨ps, .building⟩
  | compiled {ps : List String} {combined : E.Combined} :
      E.compileCombined ps = .ok combined →
      Step E anchor ⟨ps, .building⟩ .compile (.ok .done)
        [⟨.debug, "compiled regex set",
          [("patterns", .number ps.length), ("anchor", .text anchor.name)]⟩]
        ⟨ps, .compiled⟩
  | failed {ps : List String} {source : BuildError} :
      E.compileCombined ps = .error source →
      Step E anchor ⟨ps, .building⟩ .compile (.error (.setCompilation source))
        [⟨.warn, "failed to compile regex set", [("error", .text source.message)]⟩]
        ⟨ps, .failed⟩
  | addedLate {l : Lifecycle} {p : String} :
      l.phase ≠ .building →
      Step E anchor l (.add p) (.error .alreadyFinalized)
        [⟨.warn, "pattern added to a compiled regex set", [("pattern", .text p)]⟩] l
  | compiledTwice {l : Lifecycle} :
      l.phase ≠ .building →
      Step E anchor l .compile (.error .alreadyFinalized)
        [⟨.warn, "regex set compiled more than once", []⟩] l
  | isMatchEarly {l : Lifecycle} {h : Haystack} :
      l.phase ≠ .compiled →
      Step E anchor l (.isMatch h) (.error .notCompiled)
        [⟨.warn, "regex set searched before compiling", []⟩] l
  | matchesEarly {l : Lifecycle} {h : Haystack} :
      l.phase ≠ .compiled →
      Step E anchor l (.matchesOf h) (.error .notCompiled)
        [⟨.warn, "regex set searched before compiling", []⟩] l
  | isMatch {ps : List String} {h : Haystack} (result : Except MatchError Bool) :
      Step E anchor ⟨ps, .compiled⟩ (.isMatch h) ((result.mapError .matchEngine).map .any) []
        ⟨ps, .compiled⟩
  | matchesOf {ps : List String} {h : Haystack} (result : Except MatchError Matches) :
      Step E anchor ⟨ps, .compiled⟩ (.matchesOf h) ((result.mapError .matchEngine).map .all) []
        ⟨ps, .compiled⟩

/-- The steps that operations, performed one after another, can take. -/
inductive Run (E : Engine) (anchor : Anchor) : Lifecycle → List Operation → List Observation → Prop
  | nil (l : Lifecycle) : Run E anchor l [] []
  | cons {l next : Lifecycle} {op : Operation} {answer : Except Error Value}
      {notices : List Notice} {ops : List Operation} {seen : List Observation} :
      Step E anchor l op answer notices next → Run E anchor next ops seen →
      Run E anchor l (op :: ops) (⟨answer, notices, next.visible⟩ :: seen)

end Lifecycle

/-! ## What is seen of a set -/

def Event.notice (event : Event) : Notice := ⟨event.level, event.message, event.details⟩

/-- The notices of the events that are not mere traces. -/
def notices (events : List Event) : List Notice :=
  (events.filter (·.level ≠ .trace)).map Event.notice

namespace PatternSet

variable {E : Engine}

def visible (s : PatternSet E) : Visible := ⟨s.isCompiled, s.isFailed, s.size, s.patterns⟩

/-- What is seen of operations, performed one after another. -/
def observe (s : PatternSet E) : List Operation → List Observation
  | [] => []
  | op :: ops =>
    ⟨(s.perform op).answer, notices (s.perform op).events, (s.perform op).set.visible⟩ ::
      (s.perform op).set.observe ops

/-- The set as its lifecycle has it. -/
def lifecycle (s : PatternSet E) : Lifecycle := ⟨s.patterns, s.stage.phase⟩

variable {s : PatternSet E}

theorem visible_lifecycle (s : PatternSet E) : s.lifecycle.visible = s.visible := by
  unfold Lifecycle.visible visible lifecycle isCompiled isFailed
  cases s.stage <;> rfl

theorem OnlyTraces.notices_eq {events : List Event} (ht : OnlyTraces events) :
    notices events = [] := by
  have hnone : events.filter (·.level ≠ .trace) = [] := by
    rw [List.filter_eq_nil_iff]
    intro event hevent
    rw [ht event hevent]
    decide
  rw [notices, hnone]
  rfl

/-! ## Every run of a set is a run of the machine -/

theorem lifecycle_of_stage {stage : Stage E} (hstage : s.stage = stage) :
    s.lifecycle = ⟨s.patterns, stage.phase⟩ := by
  rw [lifecycle, hstage]

theorem phase_ne_building (hnot : s.stage ≠ .building) : s.lifecycle.phase ≠ .building := by
  unfold lifecycle
  cases hstage : s.stage with
  | building => exact absurd hstage hnot
  | compiled combined scratch => exact nofun
  | failed => exact nofun

theorem phase_ne_compiled (hc : s.isCompiled = false) : s.lifecycle.phase ≠ .compiled := by
  unfold isCompiled at hc
  unfold lifecycle
  cases hstage : s.stage with
  | building => exact nofun
  | compiled combined scratch => rw [hstage] at hc; cases hc
  | failed => exact nofun

/-- Every operation takes a step of the machine. -/
theorem perform_step (s : PatternSet E) (op : Operation) :
    Lifecycle.Step E s.anchor s.lifecycle op (s.perform op).answer
      (notices (s.perform op).events) (s.perform op).set.lifecycle := by
  cases op with
  | add p =>
    rw [perform]
    rcases add_cases s p with
      ⟨hnot, heq⟩ | ⟨hstage, source, hp, heq⟩ | ⟨hstage, single, hp, heq⟩
    · rw [heq]
      exact .addedLate (phase_ne_building hnot)
    · rw [heq, Outcome.map, lifecycle_of_stage hstage]
      exact .refused hp
    · have hextended : (s.extended p single).lifecycle = ⟨s.patterns ++ [p], .building⟩ := by
        rw [lifecycle, extended, hstage]
        rfl
      rw [heq, Outcome.map, lifecycle_of_stage hstage, hextended]
      exact .added hp
  | compile =>
    rw [perform]
    rcases compile_cases s with
      ⟨hnot, heq⟩ | ⟨hstage, source, hall, heq⟩ | ⟨hstage, combined, hall, heq⟩
    · rw [heq]
      exact .compiledTwice (phase_ne_building hnot)
    · rw [heq, lifecycle_of_stage hstage]
      exact .failed hall
    · rw [heq, lifecycle_of_stage hstage]
      exact .compiled hall
  | isMatch h =>
    rw [perform]
    rcases isMatch_cases s h with
      ⟨hc, heq⟩ | ⟨combined, scratch, scratch', found, hstage, _, ht, heq⟩
    · rw [heq]
      exact .isMatchEarly (phase_ne_compiled hc)
    · rw [heq, Outcome.map, finish, ht.notices_eq, lifecycle_of_stage hstage]
      exact .isMatch found.answer
  | matchesOf h =>
    rw [perform]
    rcases matchesOf_cases s h with ⟨hc, heq⟩ | ⟨combined, scratch, found, hstage, ht, heq⟩
    · rw [heq]
      exact .matchesEarly (phase_ne_compiled hc)
    · rw [heq, Outcome.map, finish, ht.notices_eq, lifecycle_of_stage hstage]
      exact .matchesOf found.answer

theorem perform_anchor (s : PatternSet E) (op : Operation) :
    (s.perform op).set.anchor = s.anchor := by
  cases op with
  | add p =>
    rw [perform]
    rcases add_cases s p with ⟨_, heq⟩ | ⟨_, _, _, heq⟩ | ⟨_, _, _, heq⟩
    · rw [heq]; rfl
    · rw [heq]; rfl
    · rw [heq]; rfl
  | compile =>
    rw [perform]
    rcases compile_cases s with ⟨_, heq⟩ | ⟨_, _, _, heq⟩ | ⟨_, _, _, heq⟩
    · rw [heq]; rfl
    · rw [heq]; rfl
    · rw [heq]; rfl
  | isMatch h =>
    rw [perform]
    rcases isMatch_cases s h with ⟨_, heq⟩ | ⟨_, _, _, _, _, _, _, heq⟩
    · rw [heq]; rfl
    · rw [heq]; rfl
  | matchesOf h =>
    rw [perform]
    rcases matchesOf_cases s h with ⟨_, heq⟩ | ⟨_, _, _, _, _, heq⟩
    · rw [heq]; rfl
    · rw [heq]; rfl

theorem observe_run (s : PatternSet E) (ops : List Operation) :
    Lifecycle.Run E s.anchor s.lifecycle ops (s.observe ops) := by
  induction ops generalizing s with
  | nil => exact .nil _
  | cons op ops ih =>
    have hrest := ih (s.perform op).set
    rw [perform_anchor] at hrest
    rw [observe, ← visible_lifecycle]
    exact .cons (perform_step s op) hrest

/-- What is seen of a set from the start, the machine does: over any engine, for any operations in
any order. -/
theorem lifecycle_refinement (E : Engine) (anchor : Anchor) (ops : List Operation) :
    (new E anchor).visible = Lifecycle.initial.visible ∧
      Lifecycle.Run E anchor .initial ops ((new E anchor).observe ops) :=
  ⟨rfl, observe_run (new E anchor) ops⟩

end PatternSet

end Multimatch
