import Mathlib.Logic.Function.Basic
import Multimatch.Proofs.Searching

/-!
# Searches at the same time

Searches in one compiled set share its buffers and nothing else. Here they run step by step, in any
order: each gets a buffer, empties it, has it filled, goes through the candidates one by one and
gives the buffer back, and between two of its steps others may take any number of steps. A buffer
that is lent belongs to one search until it comes back, with whatever that search left in it; the
pool may lend any idle buffer or a new one, and it may keep or drop one that comes back.

`Sound` says of one search that what it has found so far leads to the answer it gives alone. It
speaks of the search's own buffer and never of the contents of idle ones, so no step of another
search can break it.
-/
namespace Multimatch

/-! ## The pool -/

namespace Scratch

/-- The ways to lend a buffer: any idle one, or a new one. -/
inductive Lends (scratch : Scratch) : Candidates → Scratch → Prop
  | idle {before after : List Candidates} {buffer : Candidates} :
      scratch.idle = before ++ buffer :: after →
      Lends scratch buffer { scratch with idle := before ++ after }
  | create : Lends scratch (.new scratch.capacity) scratch

/-- The ways to take a buffer back: it goes anywhere among the idle ones, or it is dropped. -/
inductive TakesBack (scratch : Scratch) (buffer : Candidates) : Scratch → Prop
  | keep {before after : List Candidates} :
      scratch.idle = before ++ after →
      TakesBack scratch buffer { scratch with idle := before ++ buffer :: after }
  | drop : TakesBack scratch buffer scratch

variable {scratch scratch' : Scratch} {buffer : Candidates} {n : Nat}

/-- One search after another uses the pool in one of these ways. -/
theorem lends_lend (scratch : Scratch) : scratch.Lends scratch.lend.1 scratch.lend.2 := by
  unfold lend
  cases hidle : scratch.idle with
  | nil => exact .create
  | cons buffer rest => exact @Lends.idle scratch [] rest buffer hidle

theorem takesBack_giveBack (scratch : Scratch) (buffer : Candidates) :
    scratch.TakesBack buffer (scratch.giveBack buffer) :=
  @TakesBack.keep scratch buffer [] scratch.idle rfl

theorem Fits.of_lends (hf : scratch.Fits n) (hl : scratch.Lends buffer scratch') :
    buffer.capacity = n ∧ scratch'.Fits n := by
  cases hl with
  | idle hidle =>
    have hall := hf.idle_capacity
    rw [hidle, List.forall_mem_append, List.forall_mem_cons] at hall
    exact ⟨hall.2.1, hf.capacity_eq, List.forall_mem_append.2 ⟨hall.1, hall.2.2⟩⟩
  | create => exact ⟨by rw [Candidates.capacity_new, hf.capacity_eq], hf⟩

theorem Fits.of_takesBack (hf : scratch.Fits n) (hb : buffer.capacity = n)
    (ht : scratch.TakesBack buffer scratch') : scratch'.Fits n := by
  cases ht with
  | keep hidle =>
    have hall := hf.idle_capacity
    rw [hidle, List.forall_mem_append] at hall
    exact ⟨hf.capacity_eq, List.forall_mem_append.2
      ⟨hall.1, List.forall_mem_cons.2 ⟨hb, hall.2⟩⟩⟩
  | drop => exact hf

end Scratch

/-! ## Searches in steps -/

inductive Query
  | any (h : Haystack)
  | all (h : Haystack)
  deriving DecidableEq, Repr

namespace Query

def haystack : Query → Haystack
  | any h | all h => h

def operation : Query → Operation
  | any h => .isMatch h
  | all h => .matchesOf h

def value (kept : List Nat) : Query → Value
  | any _ => .any false
  | all _ => .all ⟨kept⟩

end Query

inductive Progress
  | waiting
  /-- It got a buffer, in which there may be anything. -/
  | lent (buffer : Candidates)
  | cleared (buffer : Candidates)
  /-- It goes through the candidates: some are kept, others are still to come. -/
  | checking (buffer : Candidates) (kept rest : List Nat)
  /-- It has found what it was asked for and still holds the buffer. -/
  | leaving (buffer : Candidates) (found : Except MatchError Value)
  | answered (answer : Except Error Value)

def Progress.buffer? : Progress → Option Candidates
  | waiting | answered _ => none
  | lent buffer | cleared buffer | checking buffer _ _ | leaving buffer _ => some buffer

structure Sharing (ι : Type) where
  scratch : Scratch
  progress : ι → Progress

namespace PatternSet

variable {E : Engine} {ι : Type}

def borrows (s : PatternSet E) : Query → Bool
  | .any _ => s.anchor.needsSpan
  | .all _ => true

/-- The step a search takes with its own buffer. There is none where it would ask for a handle that
the set does not have. -/
def work (s : PatternSet E) (combined : E.Combined) (q : Query) : Progress → Option Progress
  | .lent buffer => some (.cleared buffer.clear)
  | .cleared buffer =>
    match E.whichMatch combined q.haystack buffer with
    | (buffer, .error e) => some (.leaving buffer (.error e))
    | (buffer, .ok ()) => some (.checking buffer [] buffer.toList)
  | .checking buffer kept [] => some (.leaving buffer (.ok (q.value kept)))
  | .checking buffer kept (index :: rest) =>
    if s.anchor.needsSpan then
      match s.verifiers[index]? with
      | none => none
      | some single =>
        match (s.verify q.haystack single index).answer, q with
        | .error e, _ => some (.leaving buffer (.error e))
        | .ok false, _ => some (.checking buffer kept rest)
        | .ok true, .any _ => some (.leaving buffer (.ok (.any true)))
        | .ok true, .all _ => some (.checking buffer (kept ++ [index]) rest)
    else some (.checking buffer (kept ++ [index]) rest)
  | .waiting | .leaving _ _ | .answered _ => none

inductive Step [DecidableEq ι] (s : PatternSet E) (combined : E.Combined) (queries : ι → Query)
    (k : ι) : Sharing ι → Sharing ι → Prop
  | borrow {c : Sharing ι} {buffer : Candidates} {scratch : Scratch} :
      c.progress k = .waiting → s.borrows (queries k) = true → c.scratch.Lends buffer scratch →
      Step s combined queries k c ⟨scratch, Function.update c.progress k (.lent buffer)⟩
  | ask {c : Sharing ι} :
      c.progress k = .waiting → s.borrows (queries k) = false →
      Step s combined queries k c ⟨c.scratch, Function.update c.progress k <| .answered <|
        ((E.isMatch combined (queries k).haystack).map .any).mapError .matchEngine⟩
  | work {c : Sharing ι} {next : Progress} :
      s.work combined (queries k) (c.progress k) = some next →
      Step s combined queries k c ⟨c.scratch, Function.update c.progress k next⟩
  | giveBack {c : Sharing ι} {buffer : Candidates} {found : Except MatchError Value}
      {scratch : Scratch} :
      c.progress k = .leaving buffer found → c.scratch.TakesBack buffer scratch →
      Step s combined queries k c
        ⟨scratch, Function.update c.progress k (.answered (found.mapError .matchEngine))⟩

/-- Steps one after another; the list says whose steps they are. -/
inductive Steps [DecidableEq ι] (s : PatternSet E) (combined : E.Combined) (queries : ι → Query) :
    Sharing ι → List ι → Sharing ι → Prop
  | nil (c : Sharing ι) : Steps s combined queries c [] c
  | cons {c next last : Sharing ι} {k : ι} {ks : List ι} :
      Step s combined queries k c next → Steps s combined queries next ks last →
      Steps s combined queries c (k :: ks) last

/-! ## What one search makes of its candidates -/

def remaining (s : PatternSet E) (q : Query) (kept rest : List Nat) : Except MatchError Value :=
  match q with
  | .any h => (s.anyAcceptedOf h rest).answer.map .any
  | .all h => (s.goAll h rest).answer.map fun m => .all ⟨kept ++ m.indices⟩

def alone (s : PatternSet E) (q : Query) : Except Error Value := (s.perform q.operation).answer

/-- What a search has so far leads to the answer it gives alone. -/
def Sound (s : PatternSet E) (combined : E.Combined) (q : Query) : Progress → Prop
  | .waiting => True
  | .lent buffer => s.borrows q = true ∧ buffer.capacity = s.size
  | .cleared buffer => s.borrows q = true ∧ buffer = .new s.size
  | .checking buffer kept rest => s.borrows q = true ∧ buffer = (s.pass combined q.haystack).1 ∧
      rest.length ≤ s.size ∧ (s.anchor.needsSpan = true → s.Holds rest) ∧
      s.alone q = (s.remaining q kept rest).mapError .matchEngine
  | .leaving buffer found => s.borrows q = true ∧ buffer = (s.pass combined q.haystack).1 ∧
      s.alone q = found.mapError .matchEngine
  | .answered answer => answer = s.alone q

variable {s : PatternSet E} {combined : E.Combined} {scratch : Scratch} {q : Query}

theorem remaining_nil (q : Query) (kept : List Nat) : s.remaining q kept [] = .ok (q.value kept) := by
  cases q with
  | any h => rfl
  | all h =>
    have hnil : s.goAll h [] = ⟨.ok ⟨[]⟩, []⟩ := by
      unfold goAll
      split <;> rfl
    simp only [remaining, hnil, Except.map, List.append_nil, Query.value]

/-- Alone, a buffered search finds a failure of the combined matcher, or what its loop finds. -/
theorem Consistent.alone_eq (hs : s.Consistent) (hstage : s.stage = .compiled combined scratch)
    (hb : s.borrows q = true) :
    s.alone q = ((s.pass combined q.haystack).2.bind fun _ =>
      s.remaining q [] (s.candidates combined q.haystack)).mapError .matchEngine := by
  unfold alone
  cases q with
  | any h =>
    rw [Query.operation, PatternSet.perform, hs.isMatch_eq hstage hb, Outcome.map,
      PatternSet.finish, foundBy]
    dsimp only [Query.haystack]
    cases (s.pass combined h).2 with
    | error e => rfl
    | ok _ =>
      dsimp only [remaining]
      cases (s.anyAcceptedOf h (s.candidates combined h)).answer <;> rfl
  | all h =>
    rw [Query.operation, PatternSet.perform, hs.matchesOf_eq hstage, Outcome.map,
      PatternSet.finish, foundBy]
    dsimp only [Query.haystack]
    cases (s.pass combined h).2 with
    | error e => rfl
    | ok _ =>
      dsimp only [remaining]
      cases (s.goAll h (s.candidates combined h)).answer <;> rfl

theorem alone_unbuffered (hstage : s.stage = .compiled combined scratch)
    (hb : s.borrows q = false) :
    s.alone q = ((E.isMatch combined q.haystack).map .any).mapError .matchEngine := by
  unfold alone
  cases q with
  | all h => cases hb
  | any h =>
    rw [Query.operation, PatternSet.perform, isMatch_unanchored hstage hb, Outcome.map, finish]
    dsimp only [Query.haystack]
    cases E.isMatch combined h <;> rfl

theorem remaining_cons {i : Nat} {kept rest : List Nat} {single : E.Single}
    (hspan : s.anchor.needsSpan = true) (hsingle : s.verifiers[i]? = some single) :
    s.remaining q kept (i :: rest) =
      match (s.verify q.haystack single i).answer, q with
      | .error e, _ => .error e
      | .ok false, q => s.remaining q kept rest
      | .ok true, .any _ => .ok (.any true)
      | .ok true, .all h => s.remaining (.all h) (kept ++ [i]) rest := by
  cases q with
  | any h =>
    simp only [remaining, Query.haystack, anyAcceptedOf, hsingle]
    cases hv : s.verify h single i with
    | mk answer events =>
      cases answer with
      | error e => rfl
      | ok accepted => cases accepted <;> rfl
  | all h =>
    simp only [remaining, Query.haystack, goAll, hspan, if_true, acceptedOf, hsingle]
    cases hv : s.verify h single i with
    | mk answer events =>
      cases answer with
      | error e => rfl
      | ok accepted =>
        cases accepted with
        | false => cases hr : (s.acceptedOf h rest).answer <;> simp [Except.map, hr]
        | true => cases hr : (s.acceptedOf h rest).answer <;> simp [Except.map, hr]

theorem remaining_unanchored (hspan : s.anchor.needsSpan = false) (h : Haystack) (i : Nat)
    (kept rest : List Nat) :
    s.remaining (.all h) kept (i :: rest) = s.remaining (.all h) (kept ++ [i]) rest := by
  simp only [remaining, goAll_unanchored hspan, Except.map, List.append_assoc,
    List.singleton_append]

/-! ## One search among others -/

def stepsLeft (s : PatternSet E) : Progress → Nat
  | .waiting => s.size + 5
  | .lent _ => s.size + 4
  | .cleared _ => s.size + 3
  | .checking _ _ rest => rest.length + 2
  | .leaving _ _ => 1
  | .answered _ => 0

theorem work_cleared (s : PatternSet E) (combined : E.Combined) (q : Query) :
    s.work combined q (.cleared (.new s.size)) =
      match (s.pass combined q.haystack).2 with
      | .error e => some (.leaving (s.pass combined q.haystack).1 (.error e))
      | .ok _ => some (.checking (s.pass combined q.haystack).1 []
          (s.candidates combined q.haystack)) := by
  rw [work, candidates, pass]
  rcases E.whichMatch combined q.haystack (.new s.size) with ⟨buffer, _ | _⟩ <;> rfl

theorem holds_of_work {p next : Progress} (hwork : s.work combined q p = some next) :
    next.buffer?.isSome = true := by
  cases p with
  | waiting | leaving _ _ | answered _ => cases hwork
  | lent _ =>
    obtain rfl := Option.some.inj hwork
    rfl
  | cleared buffer =>
    rw [work] at hwork
    split at hwork <;> (obtain rfl := Option.some.inj hwork; rfl)
  | checking buffer kept rest =>
    cases rest with
    | nil =>
      obtain rfl := Option.some.inj hwork
      rfl
    | cons i rest =>
      rw [work] at hwork
      split at hwork
      · split at hwork
        · cases hwork
        · split at hwork <;> (obtain rfl := Option.some.inj hwork; rfl)
      · obtain rfl := Option.some.inj hwork
        rfl

/-- A step with the own buffer is there whenever it is due, keeps what was found on the way to the
right answer, and leaves less to do. -/
theorem Consistent.work_cases (hs : s.Consistent) (inserts : E.OnlyInserts)
    (hstage : s.stage = .compiled combined scratch) {p : Progress} (hp : s.Sound combined q p) :
    p = .waiting ∨ (∃ buffer found, p = .leaving buffer found) ∨ (∃ answer, p = .answered answer) ∨
      ∃ next, s.work combined q p = some next ∧ s.Sound combined q next ∧
        s.stepsLeft next < s.stepsLeft p := by
  cases p with
  | waiting => exact .inl rfl
  | leaving buffer found => exact .inr (.inl ⟨buffer, found, rfl⟩)
  | answered answer => exact .inr (.inr (.inl ⟨answer, rfl⟩))
  | lent buffer =>
    obtain ⟨hb, hcap⟩ := hp
    refine .inr (.inr (.inr ⟨_, rfl, ⟨hb, ?_⟩, Nat.lt_succ_self _⟩))
    rw [Candidates.clear, hcap]
  | cleared buffer =>
    obtain ⟨hb, rfl⟩ := hp
    have halone := hs.alone_eq hstage hb
    have hcapacity := hs.whichMatch_capacity inserts.keepsCapacity hstage q.haystack
    have hlen : (s.candidates combined q.haystack).length ≤ s.size :=
      hcapacity ▸ Candidates.length_toList_le _
    refine .inr (.inr (.inr ?_))
    rw [work_cleared]
    cases hpass : (s.pass combined q.haystack).2 with
    | error e =>
      rw [hpass] at halone
      exact ⟨_, rfl, ⟨hb, rfl, halone⟩, by simp only [stepsLeft]; omega⟩
    | ok _ =>
      rw [hpass] at halone
      exact ⟨_, rfl,
        ⟨hb, rfl, hlen, fun hspan => hs.holds_candidates inserts hstage hspan _, halone⟩,
        by simp only [stepsLeft]; omega⟩
  | checking buffer kept rest =>
    obtain ⟨hb, hbuffer, hlen, hh, halone⟩ := hp
    refine .inr (.inr (.inr ?_))
    cases rest with
    | nil =>
      rw [remaining_nil] at halone
      exact ⟨_, rfl, ⟨hb, hbuffer, halone⟩, Nat.lt_succ_self _⟩
    | cons i rest =>
      have hlen' : rest.length ≤ s.size := Nat.le_of_succ_le hlen
      cases hspan : s.anchor.needsSpan with
      | false =>
        have hfalse : s.anchor.needsSpan = true → s.Holds rest := fun hf => by
          rw [hspan] at hf
          cases hf
        cases q with
        | any h => rw [borrows, hspan] at hb; cases hb
        | all h =>
          rw [remaining_unanchored hspan] at halone
          exact ⟨.checking buffer (kept ++ [i]) rest, by simp [work, hspan],
            ⟨hb, hbuffer, hlen', hfalse, halone⟩, Nat.lt_succ_self _⟩
      | true =>
        have hrest : s.anchor.needsSpan = true → s.Holds rest := fun hf => (hh hf).tail
        obtain ⟨single, hsingle⟩ : ∃ single, s.verifiers[i]? = some single :=
          ⟨_, List.getElem?_eq_getElem (hh hspan).head⟩
        rw [remaining_cons hspan hsingle] at halone
        simp only [work, hspan, if_true, hsingle]
        cases hv : (s.verify q.haystack single i).answer with
        | error e =>
          rw [hv] at halone
          exact ⟨_, rfl, ⟨hb, hbuffer, halone⟩, by simp only [stepsLeft]; omega⟩
        | ok accepted =>
          rw [hv] at halone
          cases accepted with
          | false => exact ⟨_, rfl, ⟨hb, hbuffer, hlen', hrest, halone⟩, Nat.lt_succ_self _⟩
          | true =>
            cases q with
            | any h => exact ⟨_, rfl, ⟨hb, hbuffer, halone⟩, by simp only [stepsLeft]; omega⟩
            | all h => exact ⟨_, rfl, ⟨hb, hbuffer, hlen', hrest, halone⟩, Nat.lt_succ_self _⟩

theorem Consistent.capacity_held (hs : s.Consistent) (inserts : E.OnlyInserts)
    (hstage : s.stage = .compiled combined scratch) {p : Progress} (hp : s.Sound combined q p)
    {buffer : Candidates} (hheld : p.buffer? = some buffer) : buffer.capacity = s.size := by
  have hpass : (s.pass combined q.haystack).1.capacity = s.size :=
    hs.whichMatch_capacity inserts.keepsCapacity hstage q.haystack
  cases p with
  | waiting | answered _ => cases hheld
  | lent _ =>
    obtain rfl := Option.some.inj hheld
    exact hp.2
  | cleared _ =>
    obtain rfl := Option.some.inj hheld
    rw [hp.2, Candidates.capacity_new]
  | checking _ _ _ =>
    obtain rfl := Option.some.inj hheld
    rw [hp.2.1, hpass]
  | leaving _ _ =>
    obtain rfl := Option.some.inj hheld
    rw [hp.2.1, hpass]

/-! ## Any interleaving -/

/-- The pool is in order, and every search is on the way to the answer it gives alone. -/
structure Undisturbed (s : PatternSet E) (combined : E.Combined) (queries : ι → Query)
    (c : Sharing ι) : Prop where
  fits : c.scratch.Fits s.size
  sound : ∀ k, s.Sound combined (queries k) (c.progress k)

variable [DecidableEq ι] {queries : ι → Query} {c c' : Sharing ι} {k : ι} {ks : List ι}

theorem Step.progress_eq (step : Step s combined queries k c c') {j : ι} (hj : j ≠ k) :
    c'.progress j = c.progress j := by
  cases step <;> exact Function.update_of_ne hj _ _

/-- Where the step of a search leads it, and that it leaves less to do. -/
theorem Step.sound (step : Step s combined queries k c c') (hs : s.Consistent)
    (inserts : E.OnlyInserts) (hstage : s.stage = .compiled combined scratch)
    (hc : Undisturbed s combined queries c) :
    s.Sound combined (queries k) (c'.progress k) ∧
      s.stepsLeft (c'.progress k) < s.stepsLeft (c.progress k) := by
  have hk := hc.sound k
  cases step with
  | borrow hwaiting hb hlends =>
    simp only [Function.update_self, hwaiting]
    exact ⟨⟨hb, (hc.fits.of_lends hlends).1⟩, Nat.lt_succ_self _⟩
  | ask hwaiting hb =>
    simp only [Function.update_self, hwaiting]
    exact ⟨(alone_unbuffered hstage hb).symm, Nat.succ_pos _⟩
  | work hwork =>
    simp only [Function.update_self]
    rcases hs.work_cases inserts hstage hk with
      hp | ⟨_, _, hp⟩ | ⟨_, hp⟩ | ⟨next, hnext, hsound, hless⟩
    · rw [hp] at hwork; cases hwork
    · rw [hp] at hwork; cases hwork
    · rw [hp] at hwork; cases hwork
    · rw [hwork] at hnext
      obtain rfl := Option.some.inj hnext
      exact ⟨hsound, hless⟩
  | giveBack hleaving _ =>
    rw [hleaving] at hk
    simp only [Function.update_self, hleaving]
    exact ⟨hk.2.2.symm, Nat.succ_pos _⟩

theorem Step.undisturbed (step : Step s combined queries k c c') (hs : s.Consistent)
    (inserts : E.OnlyInserts) (hstage : s.stage = .compiled combined scratch)
    (hc : Undisturbed s combined queries c) : Undisturbed s combined queries c' := by
  refine ⟨?_, fun j => ?_⟩
  · cases step with
    | borrow _ _ hlends => exact (hc.fits.of_lends hlends).2
    | ask _ _ => exact hc.fits
    | work _ => exact hc.fits
    | giveBack hleaving htakes =>
      have hk := hc.sound k
      rw [hleaving] at hk
      exact hc.fits.of_takesBack (hs.capacity_held inserts hstage hk rfl) htakes
  · by_cases hj : j = k
    · subst hj
      exact (step.sound hs inserts hstage hc).1
    · rw [step.progress_eq hj]
      exact hc.sound j

/-- However the steps of the searches are interleaved, each stays on the way to its answer, and
each takes no more steps than it has left. -/
theorem Steps.undisturbed (run : Steps s combined queries c ks c') (hs : s.Consistent)
    (inserts : E.OnlyInserts) (hstage : s.stage = .compiled combined scratch)
    (hc : Undisturbed s combined queries c) :
    Undisturbed s combined queries c' ∧
      ∀ j, ks.count j + s.stepsLeft (c'.progress j) ≤ s.stepsLeft (c.progress j) := by
  induction run with
  | nil c => exact ⟨hc, fun j => by simp⟩
  | @cons c next last k ks step _ ih =>
    obtain ⟨hlast, hcount⟩ := ih (step.undisturbed hs inserts hstage hc)
    refine ⟨hlast, fun j => ?_⟩
    have hj := hcount j
    by_cases hk : j = k
    · subst hk
      have hless := (step.sound hs inserts hstage hc).2
      rw [List.count_cons_self]
      omega
    · rw [step.progress_eq hk] at hj
      rw [List.count_cons_of_ne (Ne.symm hk)]
      exact hj

/-! ## Searches that run on their own -/

/-- Once it has a buffer, a search comes to its answer without any step of another. -/
theorem Consistent.steps_of_held (hs : s.Consistent) (inserts : E.OnlyInserts)
    (hstage : s.stage = .compiled combined scratch) (queries : ι → Query) (k : ι)
    (pool : Scratch) (progress : ι → Progress) (p : Progress) (hp : s.Sound combined (queries k) p)
    (hheld : p.buffer?.isSome = true) :
    ∃ n, Steps s combined queries ⟨pool, Function.update progress k p⟩ (.replicate n k)
      ⟨pool.giveBack (s.pass combined (queries k).haystack).1,
        Function.update progress k (.answered (s.alone (queries k)))⟩ := by
  induction hn : s.stepsLeft p using Nat.strongRecOn generalizing p with
  | _ left ih =>
  rcases hs.work_cases inserts hstage hp with
    rfl | ⟨buffer, found, rfl⟩ | ⟨_, rfl⟩ | ⟨next, hnext, hsound, hless⟩
  · cases hheld
  · obtain ⟨_, hbuffer, halone⟩ := hp
    have step : Step s combined queries k ⟨pool, Function.update progress k (.leaving buffer found)⟩
        ⟨pool.giveBack buffer, Function.update (Function.update progress k (.leaving buffer found)) k
          (.answered (found.mapError .matchEngine))⟩ :=
      .giveBack (Function.update_self k _ progress) (pool.takesBack_giveBack buffer)
    rw [Function.update_idem, ← halone] at step
    rw [← hbuffer]
    exact ⟨1, .cons step (.nil _)⟩
  · cases hheld
  · obtain ⟨n, run⟩ := ih _ (hn ▸ hless) next hsound (holds_of_work hnext) rfl
    have step : Step s combined queries k ⟨pool, Function.update progress k p⟩
        ⟨pool, Function.update (Function.update progress k p) k next⟩ :=
      .work ((congrArg _ (Function.update_self k p progress)).trans hnext)
    rw [Function.update_idem] at step
    exact ⟨n + 1, .cons step run⟩

def poolAfter (s : PatternSet E) (combined : E.Combined) (q : Query) (pool : Scratch) : Scratch :=
  if s.borrows q then returned combined pool q.haystack else pool

/-- A search that waits comes to its answer without any step of another. -/
theorem Consistent.steps_answered (hs : s.Consistent) (inserts : E.OnlyInserts)
    (hstage : s.stage = .compiled combined scratch) (queries : ι → Query) (k : ι)
    {pool : Scratch} (hfits : pool.Fits s.size) {progress : ι → Progress}
    (hwaiting : progress k = .waiting) :
    ∃ n, Steps s combined queries ⟨pool, progress⟩ (.replicate n k)
      ⟨s.poolAfter combined (queries k) pool,
        Function.update progress k (.answered (s.alone (queries k)))⟩ := by
  cases hb : s.borrows (queries k) with
  | false =>
    rw [poolAfter, hb, alone_unbuffered hstage hb]
    exact ⟨1, .cons (.ask hwaiting hb) (.nil _)⟩
  | true =>
    have hreturned : returned combined pool (queries k).haystack =
        pool.lend.2.giveBack (s.pass combined (queries k).haystack).1 := by
      rw [returned, hfits.clear_lend]
      rfl
    obtain ⟨n, run⟩ := hs.steps_of_held inserts hstage queries k pool.lend.2 progress
      (.lent pool.lend.1) ⟨hb, hfits.lend.1⟩ rfl
    rw [poolAfter, if_pos hb, hreturned]
    exact ⟨n + 1, .cons (.borrow hwaiting hb pool.lends_lend) run⟩

/-- A search that is called in one go is one that takes its steps without any step of another. -/
theorem Consistent.perform_steps (hs : s.Consistent) (inserts : E.OnlyInserts)
    (hstage : s.stage = .compiled combined scratch) (queries : ι → Query) (k : ι)
    {progress : ι → Progress} (hwaiting : progress k = .waiting) :
    ∃ n scratch', (s.perform (queries k).operation).set =
        { s with stage := .compiled combined scratch' } ∧
      Steps s combined queries ⟨scratch, progress⟩ (.replicate n k)
        ⟨scratch', Function.update progress k
          (.answered (s.perform (queries k).operation).answer)⟩ := by
  obtain ⟨n, run⟩ := hs.steps_answered inserts hstage queries k
    (hs.compiled combined scratch hstage).2 hwaiting
  refine ⟨n, _, ?_, run⟩
  cases queries k with
  | all h =>
    rw [Query.operation, PatternSet.perform, hs.matchesOf_eq hstage]
    rfl
  | any h =>
    cases hb : s.anchor.needsSpan with
    | false =>
      rw [Query.operation, PatternSet.perform, isMatch_unanchored hstage hb, poolAfter, borrows, hb]
      rfl
    | true =>
      rw [Query.operation, PatternSet.perform, hs.isMatch_eq hstage hb, poolAfter, borrows, hb]
      rfl

/-- A search that others have interrupted can still come to its answer by its own steps. -/
theorem Undisturbed.steps_answered (hc : Undisturbed s combined queries c) (hs : s.Consistent)
    (inserts : E.OnlyInserts) (hstage : s.stage = .compiled combined scratch) (k : ι) :
    ∃ n c', Steps s combined queries c (.replicate n k) c' ∧
      c'.progress k = .answered (s.alone (queries k)) := by
  obtain ⟨pool, progress⟩ := c
  have hk : s.Sound combined (queries k) (progress k) := hc.sound k
  cases hheld : (progress k).buffer?.isSome with
  | true =>
    obtain ⟨n, run⟩ := hs.steps_of_held inserts hstage queries k pool progress _ hk hheld
    rw [Function.update_eq_self] at run
    exact ⟨n, _, run, Function.update_self _ _ _⟩
  | false =>
    cases hp : progress k with
    | waiting =>
      obtain ⟨n, run⟩ := hs.steps_answered inserts hstage queries k hc.fits hp
      exact ⟨n, _, run, Function.update_self _ _ _⟩
    | answered answer =>
      rw [hp] at hk
      exact ⟨0, _, .nil _, hp.trans (congrArg _ hk)⟩
    | lent _ => rw [hp] at hheld; cases hheld
    | cleared _ => rw [hp] at hheld; cases hheld
    | checking _ _ _ => rw [hp] at hheld; cases hheld
    | leaving _ _ => rw [hp] at hheld; cases hheld

def renewed (s : PatternSet E) : PatternSet E :=
  { s with stage := .building : PatternSet E }.compile.set

/-- No search before makes a difference to what a search finds alone. -/
theorem Consistent.alone_renewed (hs : s.Consistent)
    (hstage : s.stage = .compiled combined scratch) (q : Query) : s.renewed.alone q = s.alone q := by
  have htogether := (hs.compiled combined scratch hstage).1
  have hrenewed : s.renewed = { s with stage := .compiled combined (.new s.size) } := by
    simp only [renewed, PatternSet.compile, htogether]
    rfl
  have ht : s.renewed.Consistent := by
    rw [hrenewed]
    exact hs.finish hstage (Scratch.fits_new _) (⟨.ok (), []⟩ : Finding Unit)
  have ha : Alike s.renewed s := by
    rw [hrenewed]
    exact alike_finish hstage (.new s.size) (⟨.ok (), []⟩ : Finding Unit)
  obtain ⟨⟨hany, _⟩, hall, _⟩ := ha.search_eq ht hs q.haystack
  cases q with
  | any h => exact congrArg (Except.map _) hany
  | all h => exact congrArg (Except.map _) hall

/-- Searches at the same time do not disturb each other. Whatever was searched for before, and
however their steps are interleaved, a search that has its answer has the one it gets as the first
and only search; every buffer, idle or held, has the capacity of the set; and no search can be kept
from its answer. -/
theorem searches_independent (reached : s.Reachable) (inserts : E.OnlyInserts)
    (hstage : s.stage = .compiled combined scratch) (queries : ι → Query)
    (run : Steps s combined queries ⟨scratch, fun _ => .waiting⟩ ks c) :
    (∀ k answer, c.progress k = .answered answer →
        answer = (s.renewed.perform (queries k).operation).answer) ∧
      (c.scratch.capacity = s.size ∧ ∀ buffer ∈ c.scratch.idle, buffer.capacity = s.size) ∧
      (∀ k buffer, (c.progress k).buffer? = some buffer → buffer.capacity = s.size) ∧
      ∀ k, ks.count k ≤ s.size + 5 ∧
        ∃ n c', Steps s combined queries c (.replicate n k) c' ∧
          c'.progress k = .answered (s.renewed.perform (queries k).operation).answer := by
  have hs := reached.consistent inserts
  have hstart : Undisturbed s combined queries ⟨scratch, fun _ => .waiting⟩ :=
    ⟨(hs.compiled combined scratch hstage).2, fun _ => trivial⟩
  have halone : ∀ q : Query, (s.renewed.perform q.operation).answer = s.alone q :=
    hs.alone_renewed hstage
  obtain ⟨hc, hcount⟩ := run.undisturbed hs inserts hstage hstart
  refine ⟨fun k answer hk => ?_, ⟨hc.fits.capacity_eq, hc.fits.idle_capacity⟩,
    fun k buffer hheld => hs.capacity_held inserts hstage (hc.sound k) hheld, fun k => ⟨?_, ?_⟩⟩
  · have hsound := hc.sound k
    rw [hk] at hsound
    rw [halone]
    exact hsound
  · exact Nat.le_trans (Nat.le_add_right _ _) (hcount k)
  · rw [halone]
    exact hc.steps_answered hs inserts hstage k

/-- The answers of an engine that fails midway on one haystack, after it found the first pattern. -/
def failingMidway : Tabulated.Answers where
  rules := [⟨"a", some [98], .ok true, .ok (some ⟨0, 1⟩)⟩,
    ⟨"a", none, .ok false, .ok (some ⟨0, 1⟩)⟩,
    ⟨"b", some [98], .error (.gaveUp 1), .ok none⟩, ⟨"b", none, .ok true, .ok (some ⟨0, 1⟩)⟩]

def twoPatterns : PatternSet (Tabulated.engine failingMidway) :=
  (new _ .start).after [.add "a", .add "b", .compile]

def threeQueries : Fin 3 → Query
  | 0 => .all [98]
  | 1 => .all [97]
  | 2 => .any [97]

/-- The first of three searches fails, and the second gets its buffer, with the first pattern still
in it, while the third is on its way. -/
theorem searches_independent_past_failure :
    twoPatterns.Reachable ∧ (Tabulated.engine failingMidway).OnlyInserts ∧
      twoPatterns.stage = .compiled ["a", "b"] (.new 2) ∧
      ∃ c : Sharing (Fin 3), Steps twoPatterns ["a", "b"] threeQueries
          ⟨.new 2, fun _ => .waiting⟩ [0, 2, 0, 0, 2, 0, 1, 2, 1, 1, 2, 1, 1, 2, 1] c ∧
        c.progress 1 = .answered (.ok (.all ⟨[1]⟩)) ∧
        (twoPatterns.renewed.perform (.matchesOf [97])).answer = .ok (.all ⟨[1]⟩) ∧
        ∀ buffer ∈ c.scratch.idle, buffer.capacity = 2 := by
  have reached : twoPatterns.Reachable := (Reachable.new .start).after _
  have inserts := Tabulated.onlyInserts failingMidway
  have hstage : twoPatterns.stage = .compiled ["a", "b"] (.new 2) := rfl
  have run : ∃ c : Sharing (Fin 3), Steps twoPatterns ["a", "b"] threeQueries
      ⟨.new 2, fun _ => .waiting⟩ [0, 2, 0, 0, 2, 0, 1, 2, 1, 1, 2, 1, 1, 2, 1] c ∧
      c.progress 1 = .answered (.ok (.all ⟨[1]⟩)) :=
    ⟨_, .cons (.borrow rfl rfl .create) <| .cons (.borrow rfl rfl .create) <|
      .cons (.work rfl) <| .cons (.work rfl) <| .cons (.work rfl) <|
      .cons (.giveBack rfl (Scratch.takesBack_giveBack _ _)) <|
      .cons (.borrow rfl rfl (Scratch.lends_lend _)) <|
      .cons (.work rfl) <| .cons (.work rfl) <| .cons (.work rfl) <| .cons (.work rfl) <|
      .cons (.work rfl) <| .cons (.work rfl) <|
      .cons (.giveBack rfl (Scratch.takesBack_giveBack _ _)) <|
      .cons (.giveBack rfl (Scratch.takesBack_giveBack _ _)) <| .nil _, rfl⟩
  obtain ⟨c, run, hanswer⟩ := run
  obtain ⟨hanswers, ⟨_, hidle⟩, _⟩ := searches_independent reached inserts hstage _ run
  exact ⟨reached, inserts, hstage, c, run, hanswer, (hanswers 1 _ hanswer).symm, hidle⟩

end PatternSet

end Multimatch
