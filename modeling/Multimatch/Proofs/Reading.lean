import Mathlib.Data.List.Forall2
import Multimatch.Engine.Walking
import Multimatch.Proofs.Backends

/-!
# How walks read patterns

Walks keep what backends promise of compilations. Patterns that are compiled together are read as
they are one by one, whatever the settings, and what tables refuse besides is settled by each
expression for itself. The memory of an automaton has nothing to do with limits.
-/
namespace Multimatch

variable {o : Pattern.Options} {p : String} {ps : List String} {r : Regex}

/-! ## The language -/

namespace Language

/-- What walks make of patterns. -/
def walks : Language where
  read o p := (Parsed.ofPattern o p).toOption.map Parsed.regex
  prefers := Regex.Prefers

theorem read_eq_some_iff :
    walks.read o p = some r ↔ ∃ parsed, Parsed.ofPattern o p = .ok parsed ∧ parsed.regex = r := by
  unfold walks
  dsimp only
  cases Parsed.ofPattern o p with
  | error fault => exact iff_of_false nofun nofun
  | ok parsed => simp [Except.toOption]

theorem read_eq_none_iff :
    walks.read o p = none ↔ ∃ fault, Parsed.ofPattern o p = .error fault := by
  unfold walks
  dsimp only
  cases Parsed.ofPattern o p with
  | error fault => simp [Except.toOption]
  | ok parsed => exact iff_of_false nofun nofun

theorem takesCharacters_walks : walks.TakesCharacters := by
  intro o p r ho hr
  obtain ⟨parsed, hparsed, rfl⟩ := read_eq_some_iff.1 hr
  exact Parsed.takesCharacters_of_ofPattern ho hparsed

theorem swapsGreed_walks : walks.SwapsGreed := by
  intro o p swap
  cases hparsed : Parsed.ofPattern o p with
  | ok parsed =>
    obtain ⟨parsed', hparsed', hplain⟩ := Pattern.exists_ofPattern_withGreed hparsed swap
    rw [read_eq_some_iff.2 ⟨parsed, hparsed, rfl⟩, read_eq_some_iff.2 ⟨parsed', hparsed', rfl⟩]
    exact congrArg some hplain
  | error fault =>
    rw [read_eq_none_iff.2 ⟨fault, hparsed⟩]
    cases hparsed' : Parsed.ofPattern (o.withGreed swap) p with
    | error fault' => rw [read_eq_none_iff.2 ⟨fault', hparsed'⟩]
    | ok parsed' =>
      obtain ⟨parsed'', hback, -⟩ := Pattern.exists_ofPattern_withGreed hparsed' o.swapGreed
      cases hparsed.symm.trans hback

end Language

/-! ## Chains of steps -/

section Except

variable {ε α β : Type} {x : Except ε α} {e : ε}

theorem exists_of_map_eq_ok {f : α → β} {b : β} (hok : x.map f = .ok b) :
    ∃ a, x = .ok a ∧ f a = b := by
  cases x with
  | error e => cases hok
  | ok a => exact ⟨a, rfl, Except.ok.inj hok⟩

theorem eq_error_of_map_eq_error {f : α → β} (he : x.map f = .error e) : x = .error e := by
  cases x with
  | error e' => rw [Except.error.inj he]
  | ok a => cases he

/-- A chain of steps fails if its first step does, or if that succeeds and the others fail. -/
theorem bind_eq_error_iff {f : α → Except ε β} :
    x >>= f = .error e ↔ x = .error e ∨ ∃ a, x = .ok a ∧ f a = .error e := by
  cases x with
  | error e' =>
    have hfails : (Except.error e' >>= f) = .error e' := rfl
    simp [hfails]
  | ok a =>
    have hgoes : (Except.ok a >>= f) = f a := rfl
    simp [hgoes]

/-- Reading items one by one succeeds if it does for each of them. -/
theorem forall₂_of_mapM_eq_ok {f : α → Except ε β} {xs : List α} {ys : List β}
    (hok : xs.mapM f = .ok ys) : List.Forall₂ (fun x y => f x = .ok y) xs ys := by
  induction xs generalizing ys with
  | nil =>
    rw [List.mapM_nil] at hok
    obtain rfl := Except.ok.inj hok
    exact .nil
  | cons x xs ih =>
    rw [List.mapM_cons] at hok
    obtain ⟨y, hy, hok⟩ := exists_of_bind_eq_ok hok
    obtain ⟨rest, hrest, hok⟩ := exists_of_bind_eq_ok hok
    obtain rfl := Except.ok.inj hok
    exact .cons hy (ih hrest)

/-- Items that fail in order fail as one of them does. -/
theorem exists_of_mapM_eq_error {f : α → Except ε β} {xs : List α} (he : xs.mapM f = .error e) :
    ∃ x ∈ xs, f x = .error e := by
  induction xs with
  | nil =>
    rw [List.mapM_nil] at he
    cases he
  | cons x xs ih =>
    rw [List.mapM_cons] at he
    rcases bind_eq_error_iff.1 he with hx | ⟨y, -, he⟩
    · exact ⟨x, List.mem_cons_self, hx⟩
    · rcases bind_eq_error_iff.1 he with hrest | ⟨ys, -, hdone⟩
      · obtain ⟨x', hmem, hx'⟩ := ih hrest
        exact ⟨x', List.mem_cons_of_mem x hmem, hx'⟩
      · cases hdone

/-- Of two lists that belong together, the first has an item wherever the second has one. -/
theorem exists_getElem?_of_forall₂ {R : α → β → Prop} {xs : List α} {ys : List β}
    (hall : List.Forall₂ R xs ys) {i : Nat} {y : β} (hy : ys[i]? = some y) :
    ∃ x, xs[i]? = some x ∧ R x y := by
  obtain ⟨hi, rfl⟩ := List.getElem?_eq_some_iff.1 hy
  have hi' : i < xs.length := hall.length_eq ▸ hi
  exact ⟨xs[i], List.getElem?_eq_getElem hi', (List.forall₂_iff_get.1 hall).2 i hi' hi⟩

end Except

theorem refused_bind_iff {α β : Type} {x : Except BuildError α} {f : α → Except BuildError β} :
    Refused (x >>= f) ↔ Refused x ∨ ∃ a, x = .ok a ∧ Refused (f a) := by
  simp only [Refused, bind_eq_error_iff]
  grind

/-! ## Automata -/

namespace General

variable {s : Settings} {e : BuildError}

theorem readEach_eq_ok {α β : Type} {read : α → Except Pattern.Fault β} {index : Nat} {xs : List α}
    {ys : List β} (hok : readEach read index xs = .ok ys) :
    List.Forall₂ (fun x y => read x = .ok y) xs ys := by
  induction xs generalizing index ys with
  | nil =>
    obtain rfl := Except.ok.inj hok
    exact .nil
  | cons x rest ih =>
    rw [readEach] at hok
    split at hok
    · cases hok
    · next y hx =>
      obtain ⟨ys', hrest, rfl⟩ := exists_of_map_eq_ok hok
      exact .cons hx (ih hrest)

/-- Reading items in order fails at one that cannot be read, and names it. -/
theorem readEach_eq_error {α β : Type} {read : α → Except Pattern.Fault β} {index : Nat}
    {xs : List α} (he : readEach read index xs = .error e) :
    ∃ i x fault, xs[i]? = some x ∧ read x = .error fault ∧ e = .pattern (index + i) fault := by
  induction xs generalizing index with
  | nil => cases he
  | cons x rest ih =>
    rw [readEach] at he
    split at he
    · next fault hx => exact ⟨0, x, fault, rfl, hx, (Except.error.inj he).symm⟩
    · obtain ⟨i, x', fault, hi, hx', rfl⟩ := ih (eq_error_of_map_eq_error he)
      exact ⟨i + 1, x', fault, hi, hx', by rw [Nat.add_assoc, Nat.add_comm 1 i]⟩

theorem forall₂_ofPattern {trees : List Pattern.Tree} {parsed : List Parsed}
    (hread : List.Forall₂ (fun p tree => Pattern.read o p.toList = .ok tree) ps trees)
    (hmeant : List.Forall₂ (fun tree x => Parsed.ofTree o tree = .ok x) trees parsed) :
    List.Forall₂ (fun p x => Parsed.ofPattern o p = .ok x) ps parsed := by
  induction hread generalizing parsed with
  | nil =>
    cases hmeant
    exact .nil
  | cons hp _ ih =>
    cases hmeant with
    | cons htree hrest =>
      refine .cons ?_ (ih hrest)
      rw [Parsed.ofPattern, hp]
      exact htree

/-- Patterns that are read together are read one by one. -/
theorem readAll_eq_ok {parsed : List Parsed} (hok : readAll o ps = .ok parsed) :
    List.Forall₂ (fun p x => Parsed.ofPattern o p = .ok x) ps parsed := by
  obtain ⟨trees, htrees, hparsed⟩ := exists_of_bind_eq_ok hok
  exact forall₂_ofPattern (List.forall₂_map_left_iff.1 (readEach_eq_ok htrees))
    (readEach_eq_ok hparsed)

/-- Patterns that cannot be read together fail with the fault of one of them, and name it. -/
theorem readAll_eq_error (he : readAll o ps = .error e) :
    ∃ i p fault, ps[i]? = some p ∧ Parsed.ofPattern o p = .error fault ∧ e = .pattern i fault := by
  rcases bind_eq_error_iff.1 he with htext | ⟨trees, htrees, hmeaning⟩
  · obtain ⟨i, text, fault, hi, htext, rfl⟩ := readEach_eq_error htext
    rw [List.getElem?_map, Option.map_eq_some_iff] at hi
    obtain ⟨p, hp, rfl⟩ := hi
    refine ⟨i, p, fault, hp, ?_, by rw [Nat.zero_add]⟩
    rw [Parsed.ofPattern, htext]
    rfl
  · obtain ⟨i, tree, fault, hi, htree, rfl⟩ := readEach_eq_error hmeaning
    have hread := List.forall₂_map_left_iff.1 (readEach_eq_ok htrees)
    obtain ⟨p, hp, hptree⟩ := exists_getElem?_of_forall₂ hread hi
    refine ⟨i, p, fault, hp, ?_, by rw [Nat.zero_add]⟩
    rw [Parsed.ofPattern, hptree]
    exact htree

theorem checkMemory_eq_ok_iff {limit : Nat} {parsed : List Parsed} :
    checkMemory limit parsed = .ok () ↔ memory parsed ≤ limit := by
  unfold checkMemory
  split
  · next hle => exact iff_of_true rfl hle
  · next hgt => exact iff_of_false nofun hgt

theorem limit?_of_checkMemory {limit : Nat} {parsed : List Parsed}
    (he : checkMemory limit parsed = .error e) : e.limit? = some limit := by
  unfold checkMemory at he
  split at he
  · cases he
  · obtain rfl := Except.error.inj he
    rfl

theorem walkOne_of_fault {fault : Pattern.Fault} (hp : Parsed.ofPattern o p = .error fault) :
    walkOne s o p = .error (.pattern 0 fault) := by
  rw [walkOne, hp]

theorem walkOne_eq_error (he : walkOne s o p = .error e) (hlimit : e.limit? = none) :
    ∃ fault, Parsed.ofPattern o p = .error fault ∧ e = .pattern 0 fault := by
  cases hp : Parsed.ofPattern o p with
  | error fault =>
    rw [walkOne_of_fault hp] at he
    exact ⟨fault, rfl, (Except.error.inj he).symm⟩
  | ok parsed =>
    rw [walkOne, hp] at he
    dsimp only at he
    split at he
    · cases he
    · rw [limit?_of_checkMemory (eq_error_of_map_eq_error he)] at hlimit
      cases hlimit

theorem walkMany_eq_error (he : walkMany s o ps = .error e) (hlimit : e.limit? = none) :
    ∃ i p fault, ps[i]? = some p ∧ Parsed.ofPattern o p = .error fault ∧ e = .pattern i fault := by
  rcases bind_eq_error_iff.1 he with hread | ⟨parsed, -, he⟩
  · exact readAll_eq_error hread
  · rcases bind_eq_error_iff.1 he with hmemory | ⟨_, -, hdone⟩
    · rw [limit?_of_checkMemory hmemory] at hlimit
      cases hlimit
    · cases hdone

theorem reads_walking : walking.Reads .walks where
  refuses_one s {o p} hp := by
    obtain ⟨fault, hfault⟩ := Language.read_eq_none_iff.1 hp
    exact ⟨_, walkOne_of_fault hfault, rfl⟩
  refuses_many s {o ps p} hmem hp := by
    obtain ⟨fault, hfault⟩ := Language.read_eq_none_iff.1 hp
    obtain ⟨i, hi⟩ := List.mem_iff_getElem?.1 hmem
    cases hread : readAll o ps with
    | error e =>
      obtain ⟨_, _, _, -, -, rfl⟩ := readAll_eq_error hread
      exact refused_bind_iff.2 (.inl ⟨_, hread, rfl⟩)
    | ok parsed =>
      obtain ⟨_, -, hq⟩ := exists_getElem?_of_forall₂ (readAll_eq_ok hread).flip hi
      cases hfault.symm.trans hq
  fault_one he hlimit := by
    obtain ⟨fault, hfault, rfl⟩ := walkOne_eq_error he hlimit
    exact ⟨Language.read_eq_none_iff.2 ⟨fault, hfault⟩, fault, rfl⟩
  fault_many he hlimit := by
    obtain ⟨i, p, fault, hi, hfault, rfl⟩ := walkMany_eq_error he hlimit
    exact ⟨i, p, fault, hi, Language.read_eq_none_iff.2 ⟨fault, hfault⟩, rfl⟩

/-! ## What is compiled -/

theorem walkOne_eq_ok (hok : walkOne s o p = .ok r) : Language.walks.read o p = some r := by
  unfold walkOne at hok
  split at hok
  · cases hok
  · next parsed hparsed =>
    refine Language.read_eq_some_iff.2 ⟨parsed, hparsed, ?_⟩
    split at hok
    · exact Except.ok.inj hok
    · obtain ⟨_, -, hr⟩ := exists_of_map_eq_ok hok
      exact hr

theorem walkMany_eq_ok {rs : List Regex} (hok : walkMany s o ps = .ok rs) :
    List.Forall₂ (fun p r => Language.walks.read o p = some r) ps rs := by
  obtain ⟨parsed, hparsed, hok⟩ := exists_of_bind_eq_ok hok
  obtain ⟨_, _, hok⟩ := exists_of_bind_eq_ok hok
  obtain rfl := Except.ok.inj hok
  exact List.forall₂_map_right_iff.2 ((readAll_eq_ok hparsed).imp fun p x hx =>
    Language.read_eq_some_iff.2 ⟨x, hx, rfl⟩)

/-! ## Limits -/

/-- The memory of an automaton for one pattern; a choice between texts needs none. -/
def memoryAlone (x : Parsed) : Nat :=
  if x.regex.isLiteralChoice x.captures then 0 else memory [x]

theorem exists_walkOne_iff : (∃ r, walkOne s o p = .ok r) ↔
    ∃ x, Parsed.ofPattern o p = .ok x ∧ memoryAlone x ≤ s.automatonLimit?.getD defaultLimit := by
  unfold walkOne
  cases hp : Parsed.ofPattern o p with
  | error fault => exact iff_of_false nofun nofun
  | ok x =>
    simp only [Except.ok.injEq, exists_eq_left', memoryAlone]
    split
    · exact iff_of_true ⟨_, rfl⟩ (Nat.zero_le _)
    · rw [← checkMemory_eq_ok_iff]
      cases checkMemory (s.automatonLimit?.getD defaultLimit) [x] with
      | error e => exact iff_of_false nofun nofun
      | ok _ => exact iff_of_true ⟨_, rfl⟩ rfl

theorem exists_walkMany_iff : (∃ rs, walkMany s o ps = .ok rs) ↔
    ∃ xs, readAll o ps = .ok xs ∧ memory xs ≤ s.automatonLimit?.getD defaultLimit := by
  unfold walkMany
  constructor
  · rintro ⟨rs, hok⟩
    obtain ⟨xs, hxs, hok⟩ := exists_of_bind_eq_ok hok
    obtain ⟨_, hmemory, -⟩ := exists_of_bind_eq_ok hok
    exact ⟨xs, hxs, checkMemory_eq_ok_iff.1 hmemory⟩
  · rintro ⟨xs, hxs, hle⟩
    rw [bind_eq_of_eq_ok hxs, bind_eq_of_eq_ok (checkMemory_eq_ok_iff.2 hle)]
    exact ⟨_, rfl⟩

theorem eq_of_walkOne {s' : Settings} {r' : Regex} (hr : walkOne s o p = .ok r)
    (hr' : walkOne s' o p = .ok r') : r' = r :=
  Option.some.inj ((walkOne_eq_ok hr').symm.trans (walkOne_eq_ok hr))

theorem eq_of_walkMany {s' : Settings} {rs rs' : List Regex} (hrs : walkMany s o ps = .ok rs)
    (hrs' : walkMany s' o ps = .ok rs') : rs' = rs := by
  refine List.right_unique_forall₂' ?_ (walkMany_eq_ok hrs') (walkMany_eq_ok hrs)
  intro p r r' hr hr'
  exact Option.some.inj (hr.symm.trans hr')

/-- What walks need of memory is settled by the patterns, and limits are forgotten then. -/
theorem limits_walking : walking.Limits defaultLimit where
  one_within s o p := by
    refine ⟨(Parsed.ofPattern o p).toOption.map memoryAlone, fun limit? table? => ?_⟩
    refine exists_walkOne_iff.trans ?_
    cases Parsed.ofPattern o p with
    | error fault => exact iff_of_false nofun nofun
    | ok x => simp [Except.toOption, Settings.withLimits]
  many_within s o ps := by
    refine ⟨(readAll o ps).toOption.map memory, fun limit? table? => ?_⟩
    refine exists_walkMany_iff.trans ?_
    cases readAll o ps with
    | error fault => exact iff_of_false nofun nofun
    | ok xs => simp [Except.toOption, Settings.withLimits]
  find_eq hr hr' h := congrArg (walking.find · h) (eq_of_walkOne hr hr')
  isMatch_eq hrs hrs' h := congrArg (walking.isMatch · h) (eq_of_walkMany hrs hrs')
  whichMatch_eq hrs hrs' h buffer :=
    congrArg (walking.whichMatch · h buffer) (eq_of_walkMany hrs hrs')

end General

/-! ## Tables -/

namespace Dense

variable {s : WalkSettings} {rs : List Regex} {e : BuildError}

theorem read_eq_error (he : read o p = .error e) :
    ∃ fault, Parsed.ofPattern o p = .error fault ∧ e = .automaton (.malformed fault) := by
  unfold read at he
  split at he
  · next fault hp => exact ⟨fault, hp, (Except.error.inj he).symm⟩
  · cases he

theorem refused_read_iff : Refused (read o p) ↔ Language.walks.read o p = none := by
  rw [Language.read_eq_none_iff]
  unfold read
  split
  · next fault hp => exact iff_of_true (refused_error_iff.2 rfl) ⟨fault, hp⟩
  · next x hp => exact iff_of_false (not_refused_ok _) fun ⟨_, he⟩ => nomatch hp.symm.trans he

theorem read_eq_ok_iff : read o p = .ok r ↔ Language.walks.read o p = some r := by
  rw [Language.read_eq_some_iff]
  unfold read
  split
  · next fault hp => exact iff_of_false nofun fun ⟨_, hx, _⟩ => nomatch hp.symm.trans hx
  · next x hp => simp [hp]

/-- The quit bytes of a table for expressions of which some has an edge of a Unicode word. -/
def WalkSettings.edgeQuits (s : WalkSettings) : IntervalSet :=
  if s.unicodeWordEdges then s.quits.union nonAscii else s.quits

/-- Such a table quits at all bytes beyond ASCII. -/
def WalkSettings.AdmitsEdges (s : WalkSettings) : Prop :=
  (nonAscii.difference s.edgeQuits .bytes).isEmpty = true

theorem quitsFor_of_any (hwords : rs.any Regex.hasUnicodeWord = true) :
    s.quitsFor rs = s.edgeQuits := by
  rw [WalkSettings.quitsFor, hwords, Bool.and_true, WalkSettings.edgeQuits]

/-- A table is refused if an expression has an edge of a Unicode word that is not admitted. -/
theorem refused_tabulate_iff {α : Type} {content : α} :
    Refused (tabulate s content rs) ↔ ∃ r ∈ rs, r.hasUnicodeWord = true ∧ ¬ s.AdmitsEdges := by
  have hcondition : (rs.any Regex.hasUnicodeWord &&
      !(nonAscii.difference (s.quitsFor rs) .bytes).isEmpty) = true ↔
        ∃ r ∈ rs, r.hasUnicodeWord = true ∧ ¬ s.AdmitsEdges := by
    rw [Bool.and_eq_true]
    cases hwords : rs.any Regex.hasUnicodeWord with
    | true =>
      obtain ⟨r, hr, hword⟩ := List.any_eq_true.1 hwords
      rw [quitsFor_of_any hwords, and_iff_right rfl, Bool.not_eq_true', ← Bool.not_eq_true]
      exact ⟨fun hnot => ⟨r, hr, hword, hnot⟩, fun ⟨_, _, _, hnot⟩ => hnot⟩
    | false =>
      refine iff_of_false (fun htakes => nomatch htakes.1) ?_
      rintro ⟨r, hr, hword, -⟩
      exact List.any_eq_false.1 hwords r hr hword
  unfold tabulate
  dsimp only
  split
  · next htakes => exact iff_of_true (refused_error_iff.2 rfl) (hcondition.1 htakes)
  · next htakes =>
    refine iff_of_false ?_ (fun hrefused => htakes (hcondition.2 hrefused))
    split
    · exact fun hrefused => nomatch refused_error_iff.1 hrefused
    · exact fun hrefused => nomatch refused_error_iff.1 hrefused
    · exact not_refused_ok _

/-- If no limit is exceeded, a table fails for an edge of a Unicode word only. -/
theorem tabulate_eq_error {α : Type} {content : α} (he : tabulate s content rs = .error e)
    (hlimit : e.limit? = none) : e = .unicodeWordEdge := by
  unfold tabulate at he
  dsimp only at he
  split at he
  · exact (Except.error.inj he).symm
  · split at he
    · obtain rfl := Except.error.inj he
      cases hlimit
    · obtain rfl := Except.error.inj he
      cases hlimit
    · cases he

theorem refused_walkOne_iff :
    Refused (walkOne s o p) ↔ Language.walks.Bars o s.AdmitsEdges p := by
  unfold walkOne Language.Bars
  simp only [refused_bind_iff, refused_read_iff, read_eq_ok_iff, refused_tabulate_iff,
    List.mem_singleton, exists_eq_left]

theorem refused_walkMany_iff :
    Refused (walkMany s o ps) ↔ ∃ p ∈ ps, Language.walks.Bars o s.AdmitsEdges p := by
  unfold walkMany
  rw [refused_bind_iff]
  constructor
  · rintro (⟨e, he, hlimit⟩ | ⟨rs, hrs, htable⟩)
    · obtain ⟨p, hmem, hread⟩ := exists_of_mapM_eq_error he
      exact ⟨p, hmem, .inl (refused_read_iff.1 ⟨e, hread, hlimit⟩)⟩
    · obtain ⟨r, hr, hedge⟩ := refused_tabulate_iff.1 htable
      obtain ⟨i, hi⟩ := List.mem_iff_getElem?.1 hr
      obtain ⟨p, hp, hread⟩ := exists_getElem?_of_forall₂ (forall₂_of_mapM_eq_ok hrs) hi
      exact ⟨p, List.mem_of_getElem? hp, .inr ⟨r, read_eq_ok_iff.1 hread, hedge⟩⟩
  · rintro ⟨p, hmem, hbars⟩
    cases hall : ps.mapM (read o) with
    | error e =>
      obtain ⟨q, -, hread⟩ := exists_of_mapM_eq_error hall
      obtain ⟨fault, -, rfl⟩ := read_eq_error hread
      exact .inl (refused_error_iff.2 rfl)
    | ok rs =>
      obtain ⟨i, hi⟩ := List.mem_iff_getElem?.1 hmem
      obtain ⟨r, hr, hread⟩ := exists_getElem?_of_forall₂ (forall₂_of_mapM_eq_ok hall).flip hi
      rw [read_eq_ok_iff] at hread
      rcases hbars with hnone | ⟨r', hread', hedge⟩
      · cases hread.symm.trans hnone
      · obtain rfl := Option.some.inj (hread.symm.trans hread')
        exact .inr ⟨rs, rfl, refused_tabulate_iff.2 ⟨r, List.mem_of_getElem? hr, hedge⟩⟩

theorem reads_walking : walking.Reads .walks WalkSettings.AdmitsEdges where
  edges_kind _ _ := Iff.rfl
  refused_one _ _ _ := refused_walkOne_iff
  refused_many _ _ _ := refused_walkMany_iff
  cause_one he hlimit := by
    rcases bind_eq_error_iff.1 he with hread | ⟨r, -, htable⟩
    · obtain ⟨fault, -, heq⟩ := read_eq_error hread
      exact .inl ⟨fault, heq⟩
    · exact .inr (tabulate_eq_error htable hlimit)
  cause_many he hlimit := by
    rcases bind_eq_error_iff.1 he with hall | ⟨rs, -, htable⟩
    · obtain ⟨p, -, hread⟩ := exists_of_mapM_eq_error hall
      obtain ⟨fault, -, heq⟩ := read_eq_error hread
      exact .inl ⟨fault, heq⟩
    · exact .inr (tabulate_eq_error htable hlimit)

/-! ## What is compiled -/

theorem tabulate_eq_ok {α : Type} {content : α} {t : Table α}
    (hok : tabulate s content rs = .ok t) : t.content = content := by
  unfold tabulate at hok
  dsimp only at hok
  split at hok
  · cases hok
  · split at hok
    · cases hok
    · cases hok
    · rw [← Except.ok.inj hok]

theorem walkOne_eq_ok {t : Table Regex} (hok : walkOne s o p = .ok t) :
    Language.walks.read o p = some t.content := by
  obtain ⟨r, hr, hok⟩ := exists_of_bind_eq_ok hok
  rw [tabulate_eq_ok hok]
  exact read_eq_ok_iff.1 hr

theorem walkMany_eq_ok {t : Table (List Regex)} (hok : walkMany s o ps = .ok t) :
    List.Forall₂ (fun p r => Language.walks.read o p = some r) ps t.content := by
  obtain ⟨rs, hrs, hok⟩ := exists_of_bind_eq_ok hok
  rw [tabulate_eq_ok hok]
  exact (forall₂_of_mapM_eq_ok hrs).imp fun _ _ => read_eq_ok_iff.1

end Dense

end Multimatch
