import Multimatch.Proofs.Existence
import Multimatch.Proofs.Following
import Multimatch.Proofs.Ordering

/-!
# What limits of memory settle

Three limits go into the settings of two kinds of compilation: patterns compiled together have a
limit of their own if one is set, and that of all automata otherwise. By what backends promise, each
kind of compilation is settled by the one limit of automata that it is given, and a greater limit
accepts what a smaller one does. Once patterns are accepted, limits are forgotten: engines that
differ in nothing but limits answer alike.
-/
namespace Multimatch

def Outcome.Succeeds {E : Engine} {α : Type} (o : Outcome E α) : Prop := ∃ a, o.answer = .ok a

namespace General

variable {B : Backend} {L : Language} {unset : Nat} {c c' : Config} {p : String} {h : Haystack}

/-! ## What is accepted -/

/-- The limit set for patterns compiled together, be it their own or that of all automata. -/
def Config.rulingLimit? (c : Config) : Option Nat := c.combinedLimit?.or c.automatonLimit?

theorem Config.settings_eq (c : Config) :
    c.settings = ({} : Settings).withLimits c.automatonLimit? c.tableLimit? := rfl

theorem Config.combinedSettings_eq (c : Config) :
    c.combinedSettings =
      ({ matchKind := .all, captures := .implicit } : Settings).withLimits c.rulingLimit?
        c.tableLimit? := by
  unfold combinedSettings rulingLimit?
  cases c.combinedLimit? <;> rfl

section Building

variable {s : PatternSet (engine B c)} {t : PatternSet (engine B c')}

theorem add_succeeds_iff (hstage : s.stage = .building) :
    (s.add p).Succeeds ↔ ∃ one, (engine B c).compileSingle p = .ok one := by
  rcases PatternSet.add_cases s p with ⟨hnot, -⟩ | ⟨-, source, hp, heq⟩ | ⟨-, one, hp, heq⟩
  · exact absurd hstage hnot
  · rw [heq, hp]
    exact iff_of_false (fun ⟨_, hok⟩ => nomatch hok) (fun ⟨_, hok⟩ => nomatch hok)
  · rw [heq]
    exact iff_of_true ⟨s.size, rfl⟩ ⟨one, hp⟩

theorem compile_succeeds_iff (hstage : s.stage = .building) :
    s.compile.Succeeds ↔ ∃ many, (engine B c).compileCombined s.patterns = .ok many :=
  Iff.trans ⟨fun ⟨_, hok⟩ => hok, fun hok => ⟨(), hok⟩⟩ (PatternSet.compile_eq_ok_iff hstage)

variable (limits : B.Limits unset)

include limits in
/-- A pattern needs some memory, by which the limit of all automata settles whether it is added. -/
theorem exists_need_alone (o : Pattern.Options) (p : String) : ∃ need? : Option Nat,
    ∀ (c : Config) (s : PatternSet (engine B c)), c.options = o → s.stage = .building →
      ((s.add p).Succeeds ↔ ∃ need ∈ need?, need ≤ c.automatonLimit?.getD unset) := by
  obtain ⟨need?, hneed⟩ := limits.one_within {} o p
  refine ⟨need?, ?_⟩
  rintro c s rfl hstage
  rw [add_succeeds_iff hstage, ← hneed c.automatonLimit? c.tableLimit?, ← c.settings_eq]
  rfl

include limits in
/-- Patterns together need some memory, by which the ruling limit settles whether they compile. -/
theorem exists_need_together (o : Pattern.Options) (ps : List String) : ∃ need? : Option Nat,
    ∀ (c : Config) (s : PatternSet (engine B c)), c.options = o → s.patterns = ps →
      s.stage = .building →
        (s.compile.Succeeds ↔ ∃ need ∈ need?, need ≤ c.rulingLimit?.getD unset) := by
  obtain ⟨need?, hneed⟩ := limits.many_within { matchKind := .all, captures := .implicit } o ps
  refine ⟨need?, ?_⟩
  rintro c s rfl rfl hstage
  rw [compile_succeeds_iff hstage, ← hneed c.rulingLimit? c.tableLimit?, ← c.combinedSettings_eq]
  rfl

include limits in
/-- Adding is settled by the limit of all automata, and a greater one accepts more. -/
theorem add_settled (hoptions : c'.options = c.options) (hstage : s.stage = .building)
    (hstage' : t.stage = .building) (p : String) :
    (c'.automatonLimit? = c.automatonLimit? → ((t.add p).Succeeds ↔ (s.add p).Succeeds)) ∧
      (c.automatonLimit?.getD unset ≤ c'.automatonLimit?.getD unset →
        (s.add p).Succeeds → (t.add p).Succeeds) := by
  obtain ⟨need?, hneed⟩ := exists_need_alone limits c.options p
  rw [hneed c s rfl hstage, hneed c' t hoptions hstage']
  refine ⟨fun hlimit => by rw [hlimit], ?_⟩
  rintro hle ⟨need, hmem, hwithin⟩
  exact ⟨need, hmem, hwithin.trans hle⟩

include limits in
/-- Compiling is settled by the ruling limit, and a greater one accepts more. -/
theorem compile_settled (hoptions : c'.options = c.options) (hstage : s.stage = .building)
    (hstage' : t.stage = .building) (hpatterns : t.patterns = s.patterns) :
    (c'.rulingLimit? = c.rulingLimit? → (t.compile.Succeeds ↔ s.compile.Succeeds)) ∧
      (c.rulingLimit?.getD unset ≤ c'.rulingLimit?.getD unset →
        s.compile.Succeeds → t.compile.Succeeds) := by
  obtain ⟨need?, hneed⟩ := exists_need_together limits c.options s.patterns
  rw [hneed c s rfl rfl hstage, hneed c' t hoptions hpatterns hstage']
  refine ⟨fun hlimit => by rw [hlimit], ?_⟩
  rintro hle ⟨need, hmem, hwithin⟩
  exact ⟨need, hmem, hwithin.trans hle⟩

end Building

/-! ## What is found -/

theorem follows_of_options (limits : B.Limits unset) (hoptions : c'.options = c.options) :
    (engine B c').Follows (engine B c) where
  findFirst p one one' hp hp' h first hok := by
    change B.buildOne _ c'.options p = _ at hp'
    rw [hoptions, c'.settings_eq] at hp'
    obtain rfl := Except.ok.inj hok
    exact congrArg Except.ok (limits.find_eq hp hp' h)
  isMatch ps many many' hps hps' h any hok := by
    change B.buildMany _ c.options ps = _ at hps
    change B.buildMany _ c'.options ps = _ at hps'
    rw [c.combinedSettings_eq] at hps
    rw [hoptions, c'.combinedSettings_eq] at hps'
    obtain rfl := Except.ok.inj hok
    exact congrArg Except.ok (limits.isMatch_eq hps hps' h)
  whichMatch ps many many' hps hps' h buffer found hok := by
    change B.buildMany _ c.options ps = _ at hps
    change B.buildMany _ c'.options ps = _ at hps'
    rw [c.combinedSettings_eq] at hps
    rw [hoptions, c'.combinedSettings_eq] at hps'
    obtain rfl := congrArg Prod.fst hok
    exact Prod.ext (limits.whichMatch_eq hps hps' h buffer) rfl

section Searching

variable {s : PatternSet (engine B c)} {t : PatternSet (engine B c')}

theorem not_failsWith (s : PatternSet (engine B c)) (h : Haystack) (i : Nat) (e : MatchError) :
    ¬ s.FailsWith h i e := by
  intro hfails
  obtain ⟨one, -, hone⟩ := Option.map_eq_some_iff.1 hfails
  cases hone

theorem exists_matchesOf (hs : s.Consistent) (inserts : (engine B c).OnlyInserts) {many : B.Many}
    {scratch : Scratch} (hstage : s.stage = .compiled many scratch) (h : Haystack) :
    ∃ m, (s.matchesOf h).answer = .ok m := by
  cases hanswer : (s.matchesOf h).answer with
  | ok m => exact ⟨m, rfl⟩
  | error error =>
    obtain ⟨e, -, hfails⟩ := (hs.matchesOf_eq_error_iff inserts hstage).1 hanswer
    rcases hfails with hpass | ⟨-, -, i, -, hfails, -⟩
    · cases hpass
    · exact absurd hfails (not_failsWith s h i e)

theorem exists_isMatch (hs : s.Consistent) (inserts : (engine B c).OnlyInserts) {many : B.Many}
    {scratch : Scratch} (hstage : s.stage = .compiled many scratch) (h : Haystack) :
    ∃ any, (s.isMatch h).answer = .ok any := by
  cases hspan : s.anchor.needsSpan with
  | true =>
    obtain ⟨m, hm⟩ := exists_matchesOf hs inserts hstage h
    exact ⟨m.matchedAny, hs.isMatch_of_matchesOf inserts hspan hm⟩
  | false =>
    exact ⟨B.isMatch many h, (PatternSet.isMatch_eq_ok_iff_of_unanchored hstage hspan).2 rfl⟩

/-- Compiled sets of the same patterns answer all searches, and alike if the options agree. -/
theorem same_answers (limits : B.Limits unset) (searches : B.Searches L)
    (hoptions : c'.options = c.options) (reached : s.Reachable) (reached' : t.Reachable)
    (compiled : s.isCompiled = true) (compiled' : t.isCompiled = true)
    (hpatterns : t.patterns = s.patterns) (hanchor : t.anchor = s.anchor) (h : Haystack) :
    ∃ any m, (s.isMatch h).answer = .ok any ∧ (t.isMatch h).answer = .ok any ∧
      (s.matchesOf h).answer = .ok m ∧ (t.matchesOf h).answer = .ok m := by
  have inserts := onlyInserts searches c
  have inserts' := onlyInserts searches c'
  have hs := reached.consistent inserts
  have ht := reached'.consistent inserts'
  obtain ⟨many, scratch, hstage⟩ := PatternSet.isCompiled_iff.1 compiled
  obtain ⟨any, hany⟩ := exists_isMatch hs inserts hstage h
  obtain ⟨m, hm⟩ := exists_matchesOf hs inserts hstage h
  have hfollows := follows_of_options limits hoptions
  refine ⟨any, m, hany, ?_, hm, ?_⟩
  · exact PatternSet.isMatch_of_follows hfollows inserts inserts' hs ht hanchor hpatterns
      compiled' hany
  · exact PatternSet.matchesOf_of_follows hfollows inserts inserts' hs ht hanchor hpatterns
      compiled' hm

end Searching

/-- Limits settle what is accepted and nothing else. Of engines with the same options, those with
the same limit for automata accept the same patterns, and those with the same ruling limit compile
the same patterns together; if the limit that holds is no smaller, what was accepted stays so. Sets
of the same patterns that both engines compile answer alike. -/
theorem limits_settle_acceptance_only (limits : B.Limits unset) (searches : B.Searches L)
    (hoptions : c'.options = c.options) :
    (∀ (s : PatternSet (engine B c)) (t : PatternSet (engine B c')),
      s.stage = .building → t.stage = .building →
        (∀ p, (c'.automatonLimit? = c.automatonLimit? →
            ((t.add p).Succeeds ↔ (s.add p).Succeeds)) ∧
          (c.automatonLimit?.getD unset ≤ c'.automatonLimit?.getD unset →
            (s.add p).Succeeds → (t.add p).Succeeds)) ∧
        (t.patterns = s.patterns →
          (c'.rulingLimit? = c.rulingLimit? → (t.compile.Succeeds ↔ s.compile.Succeeds)) ∧
          (c.rulingLimit?.getD unset ≤ c'.rulingLimit?.getD unset →
            s.compile.Succeeds → t.compile.Succeeds))) ∧
      ∀ (s : PatternSet (engine B c)) (t : PatternSet (engine B c')), s.Reachable →
        t.Reachable → s.isCompiled = true → t.isCompiled = true → t.patterns = s.patterns →
          t.anchor = s.anchor → ∀ h, ∃ any m,
            (s.isMatch h).answer = .ok any ∧ (t.isMatch h).answer = .ok any ∧
              (s.matchesOf h).answer = .ok m ∧ (t.matchesOf h).answer = .ok m := by
  constructor
  · intro s t hstage hstage'
    exact ⟨add_settled limits hoptions hstage hstage',
      compile_settled limits hoptions hstage hstage'⟩
  · intro s t reached reached' compiled compiled' hpatterns hanchor h
    exact same_answers limits searches hoptions reached reached' compiled compiled' hpatterns
      hanchor h

def strict : Config :=
  { automatonLimit? := some 0, combinedLimit? := some 4096, tableLimit? := some 0 }

def roomy : Config := { automatonLimit? := some 4096 }

def twoLetters (c : Config) : PatternSet (engine walking c) :=
  (PatternSet.new _ .start).after [.add "a", .add "b"]

/-- The roomy engine accepts what the strict one does, and a repetition besides. Both compile two
letters, and answer alike in "ba". -/
theorem strict_answers_as_roomy :
    walking.Limits defaultLimit ∧ walking.Searches .walks ∧ strict.options = roomy.options ∧
      strict ≠ roomy ∧ ¬ ((twoLetters strict).add "a+").Succeeds ∧
      ((twoLetters roomy).add "a+").Succeeds ∧ ((twoLetters roomy).add "c").Succeeds ∧
      (twoLetters roomy).compile.Succeeds ∧
      ∃ any m, ((twoLetters strict).compile.set.isMatch [0x62, 0x61]).answer = .ok any ∧
        ((twoLetters roomy).compile.set.isMatch [0x62, 0x61]).answer = .ok any ∧
        ((twoLetters strict).compile.set.matchesOf [0x62, 0x61]).answer = .ok m ∧
        ((twoLetters roomy).compile.set.matchesOf [0x62, 0x61]).answer = .ok m := by
  have hoptions : roomy.options = strict.options := rfl
  have hruling : roomy.rulingLimit? = strict.rulingLimit? := rfl
  have hle :
      strict.automatonLimit?.getD defaultLimit ≤ roomy.automatonLimit?.getD defaultLimit := by
    decide
  have hstage : (twoLetters strict).stage = .building := by cbv
  have hstage' : (twoLetters roomy).stage = .building := by cbv
  have hpatterns : (twoLetters roomy).patterns = (twoLetters strict).patterns := by cbv
  obtain ⟨haccept, hfind⟩ := limits_settle_acceptance_only limits_walking searches_walking hoptions
  obtain ⟨hadd, hcompile⟩ := haccept _ _ hstage hstage'
  have hrefused : ((twoLetters strict).add "a+").answer =
      .error (.patternSyntax "a+" (.automaton (.tooLarge 0))) := by cbv
  have hletter : ((twoLetters strict).add "c").Succeeds := ⟨2, by cbv⟩
  have htogether : (twoLetters strict).compile.Succeeds := ⟨(), by cbv⟩
  refine ⟨limits_walking, searches_walking, rfl, by decide, ?_, ⟨2, by cbv⟩,
    (hadd "c").2 hle hletter, ((hcompile hpatterns).1 hruling).2 htogether, ?_⟩
  · rintro ⟨i, hi⟩
    rw [hrefused] at hi
    cases hi
  · have reached : (twoLetters strict).compile.set.Reachable :=
      ((PatternSet.Reachable.new _).after _).perform .compile
    have reached' : (twoLetters roomy).compile.set.Reachable :=
      ((PatternSet.Reachable.new _).after _).perform .compile
    exact hfind _ _ reached reached' (by cbv) (by cbv) (by cbv) (by cbv) [0x62, 0x61]

end General

end Multimatch
