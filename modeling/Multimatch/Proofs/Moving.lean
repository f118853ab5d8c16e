import Multimatch.Engine.Tabulated
import Multimatch.Proofs.Lifecycle

/-!
# Moving sets

A user has sets side by side on a shelf, asks one or another of them for something, and puts the
sets that are moved out at the end of the shelf. `isolated` gives the replies of a set, and what
becomes of it, from the requests that are made to it, whatever is asked of the others. So a set that
is moved goes on as it would have at its old place, and the one left behind refuses everything for
ever.
-/
namespace Multimatch

/-- Something that is asked of a set: an operation, what it shows, or that it be moved out. -/
inductive Request
  | perform (op : Operation)
  | view
  | take
  deriving DecidableEq, Repr

structure View where
  anchor : Anchor
  visible : Visible
  isEmpty : Bool
  text : String
  deriving DecidableEq, Repr

inductive Reply (E : Engine)
  | outcome (answer : Except Error Value) (events : List Event)
  | view (shown : View)
  | moved (set : PatternSet E)

namespace PatternSet

variable {E : Engine}

def view (s : PatternSet E) : View := ⟨s.anchor, s.visible, s.isEmpty, s.text⟩

def serve (s : PatternSet E) : Request → Reply E × PatternSet E
  | .perform op => (.outcome (s.perform op).answer (s.perform op).events, (s.perform op).set)
  | .view => (.view s.view, s)
  | .take => (.moved s.take.1, s.take.2)

def serveAll (s : PatternSet E) : List Request → List (Reply E) × PatternSet E
  | [] => ([], s)
  | q :: qs => ((s.serve q).1 :: ((s.serve q).2.serveAll qs).1, ((s.serve q).2.serveAll qs).2)

end PatternSet

/-! ## Sets side by side -/

structure Command where
  place : Nat
  request : Request
  deriving DecidableEq, Repr

/-- Sets side by side, each known by its place. -/
structure Shelf (E : Engine) where
  sets : List (PatternSet E)

namespace Shelf

variable {E : Engine} {w : Shelf E} {i : Nat} {s : PatternSet E}

def arrival : Reply E → List (PatternSet E)
  | .moved set => [set]
  | .outcome _ _ | .view _ => []

/-- The reply to a command, if there is a set at its place, and the shelf after it: a set that is
moved out is put at the end. -/
def step (w : Shelf E) (c : Command) : Option (Reply E) × Shelf E :=
  match w.sets[c.place]? with
  | none => (none, w)
  | some s =>
    (some (s.serve c.request).1,
      ⟨w.sets.set c.place (s.serve c.request).2 ++ arrival (s.serve c.request).1⟩)

def run (w : Shelf E) : List Command → Shelf E
  | [] => w
  | c :: cs => (w.step c).2.run cs

def repliesAt (w : Shelf E) (i : Nat) : List Command → List (Reply E)
  | [] => []
  | c :: cs =>
    if c.place = i then (w.step c).1.toList ++ (w.step c).2.repliesAt i cs
    else (w.step c).2.repliesAt i cs

def requestsTo (i : Nat) (cs : List Command) : List Request :=
  (cs.filter (·.place = i)).map Command.request

/-- A command replaces the set at its place by what serving it leaves. -/
theorem step_at (hi : w.sets[i]? = some s) (q : Request) :
    (w.step ⟨i, q⟩).1 = some (s.serve q).1 ∧
      (w.step ⟨i, q⟩).2.sets[i]? = some (s.serve q).2 := by
  have hlt := (List.getElem?_eq_some_iff.1 hi).1
  have hlt' : i < (w.sets.set i (s.serve q).2).length := by rwa [List.length_set]
  simp only [step, hi, List.getElem?_append_left hlt', List.getElem?_set_self hlt, and_self]

theorem step_elsewhere (hi : w.sets[i]? = some s) {c : Command} (hne : c.place ≠ i) :
    (w.step c).2.sets[i]? = some s := by
  have hlt := (List.getElem?_eq_some_iff.1 hi).1
  unfold step
  cases w.sets[c.place]? with
  | none => exact hi
  | some t =>
    have hlt' : i < (w.sets.set c.place (t.serve c.request).2).length := by rwa [List.length_set]
    simp only [List.getElem?_append_left hlt', List.getElem?_set_ne hne, hi]

theorem step_take (hi : w.sets[i]? = some s) :
    (w.step ⟨i, .take⟩).2.sets[w.sets.length]? = some s := by
  have hlength : (w.sets.set i s.take.2).length = w.sets.length := List.length_set
  simp only [step, hi, PatternSet.serve, arrival, ← hlength, List.getElem?_concat_length]
  rfl

/-- What a set replies, and what becomes of it, is settled by what is asked of it. -/
theorem isolated (hi : w.sets[i]? = some s) (cs : List Command) :
    w.repliesAt i cs = (s.serveAll (requestsTo i cs)).1 ∧
      (w.run cs).sets[i]? = some (s.serveAll (requestsTo i cs)).2 := by
  induction cs generalizing w s with
  | nil => exact ⟨rfl, hi⟩
  | cons c cs ih =>
    obtain ⟨k, q⟩ := c
    rw [repliesAt, run, requestsTo]
    by_cases hk : k = i
    · subst hk
      obtain ⟨hreply, hset⟩ := step_at hi q
      obtain ⟨hreplies, hlast⟩ := ih hset
      rw [if_pos rfl, hreply, hreplies, hlast, List.filter_cons_of_pos (by simp), List.map_cons]
      exact ⟨rfl, rfl⟩
    · obtain ⟨hreplies, hlast⟩ := ih (step_elsewhere hi (c := ⟨k, q⟩) hk)
      rw [if_neg hk, hreplies, hlast, List.filter_cons_of_neg (by simpa using hk)]
      exact ⟨rfl, rfl⟩

theorem replies_congr {w' : Shelf E} {j : Nat} (hi : w.sets[i]? = some s)
    (hj : w'.sets[j]? = some s) {cs cs' : List Command}
    (hsame : requestsTo j cs = requestsTo i cs') :
    w'.repliesAt j cs = w.repliesAt i cs' ∧ (w'.run cs).sets[j]? = (w.run cs').sets[i]? := by
  obtain ⟨hreplies, hlast⟩ := isolated hi cs'
  obtain ⟨hreplies', hlast'⟩ := isolated hj cs
  rw [hreplies, hlast, hreplies', hlast', hsame]
  exact ⟨rfl, rfl⟩

end Shelf

/-! ## Sets left behind -/

namespace PatternSet

variable {E : Engine}

/-- The set that is left behind when one is moved out. -/
def leftBehind (E : Engine) (anchor : Anchor) : PatternSet E := ⟨anchor, [], [], .failed⟩

/-- How a set that was left behind replies: it takes no pattern, is never compiled and never
searched, shows that it is failed and empty, and leaves another such set when it is moved. -/
def refusal (E : Engine) (anchor : Anchor) : Request → Reply E
  | .perform (.add p) => .outcome (.error .alreadyFinalized) [.lateAddition p]
  | .perform .compile => .outcome (.error .alreadyFinalized) [.repeatedCompile]
  | .perform (.isMatch _) | .perform (.matchesOf _) => .outcome (.error .notCompiled) [.earlySearch]
  | .view =>
    .view ⟨anchor, ⟨false, true, 0, []⟩, true,
      "RegexSet \x7b anchor: " ++ anchor.name ++ ", patterns: [], state: \"Failed\" \x7d"⟩
  | .take => .moved (leftBehind E anchor)

theorem serve_leftBehind (anchor : Anchor) (q : Request) :
    (leftBehind E anchor).serve q = (refusal E anchor q, leftBehind E anchor) := by
  cases q with
  | perform op => cases op <;> rfl
  | view => cases anchor <;> rfl
  | take => rfl

/-- Whatever is asked of it, a set that was left behind refuses and stays as it is. -/
theorem serveAll_leftBehind (anchor : Anchor) (qs : List Request) :
    (leftBehind E anchor).serveAll qs = (qs.map (refusal E anchor), leftBehind E anchor) := by
  induction qs with
  | nil => rfl
  | cons q qs ih => rw [serveAll, serve_leftBehind, ih, List.map_cons]

end PatternSet

namespace Shelf

variable {E : Engine} {w : Shelf E} {i : Nat} {s : PatternSet E}

/-- Whatever its stage, a set that is moved out goes on at its new place as it would have gone on at
its old one: it replies alike to the same requests, and is left the same, whatever is asked of the
other sets in between. What is left behind refuses whatever is asked of it, and stays failed and
empty. -/
theorem moved_goes_on (hi : w.sets[i]? = some s) :
    (w.step ⟨i, .take⟩).1 = some (.moved s) ∧
      (∀ cs cs', requestsTo w.sets.length cs = requestsTo i cs' →
        (w.step ⟨i, .take⟩).2.repliesAt w.sets.length cs = w.repliesAt i cs' ∧
          ((w.step ⟨i, .take⟩).2.run cs).sets[w.sets.length]? = (w.run cs').sets[i]?) ∧
      ∀ cs, (w.step ⟨i, .take⟩).2.repliesAt i cs =
          (requestsTo i cs).map (PatternSet.refusal E s.anchor) ∧
        ((w.step ⟨i, .take⟩).2.run cs).sets[i]? = some (.leftBehind E s.anchor) := by
  obtain ⟨hreply, hleft⟩ := step_at hi .take
  have hmoved := step_take hi
  refine ⟨hreply, ?_, ?_⟩
  · intro cs cs' hsame
    exact replies_congr hi hmoved hsame
  · intro cs
    have hleft : (w.step ⟨i, .take⟩).2.sets[i]? = some (.leftBehind E s.anchor) := hleft
    obtain ⟨hreplies, hlast⟩ := isolated hleft cs
    rw [hreplies, hlast, PatternSet.serveAll_leftBehind]
    exact ⟨rfl, rfl⟩

/-- A shelf with one set on it, which has one pattern and is not compiled. -/
def oneBuilding : Shelf (Tabulated.engine {}) :=
  ⟨[(PatternSet.new _ .start).after [.add "a"]]⟩

def addsAround : List Command :=
  [⟨1, .perform (.add "b")⟩, ⟨0, .perform (.add "c")⟩, ⟨1, .perform (.add "d")⟩]

theorem moved_set_numbers_on :
    oneBuilding.sets[0]? = some ((PatternSet.new _ .start).after [.add "a"]) ∧
      (oneBuilding.step ⟨0, .take⟩).2.repliesAt 1 addsAround =
        [.outcome (.ok (.index 1)) [], .outcome (.ok (.index 2)) []] ∧
      (oneBuilding.step ⟨0, .take⟩).2.repliesAt 0 addsAround =
        [.outcome (.error .alreadyFinalized) [.lateAddition "c"]] := by
  have hi : oneBuilding.sets[0]? = some ((PatternSet.new _ .start).after [.add "a"]) := rfl
  obtain ⟨-, hgoes, hleft⟩ := moved_goes_on hi
  obtain ⟨hreplies, -⟩ :=
    hgoes addsAround [⟨0, .perform (.add "b")⟩, ⟨0, .perform (.add "d")⟩] rfl
  exact ⟨hi, hreplies.trans rfl, (hleft addsAround).1⟩

end Shelf

end Multimatch
