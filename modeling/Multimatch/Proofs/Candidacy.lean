import Multimatch.Proofs.Walking

/-!
# Patterns together and alone

The engine looks for patterns together in another way than for one alone: for all matches, and with
settings of their own. By what backends promise both come to the same if no pattern can match
nothing, and where options and haystack keep to UTF-8.

They need not come to the same otherwise. Walks that look for patterns together leave out all ends
within a character if one pattern can match nothing, although a search for another one alone would
take them; and in bytes that are not UTF-8 a byte that continues a character can follow anything.
-/
namespace Multimatch.General

variable {B : Backend} {L : Language} {c : Config} {h : Haystack}

@[simp] theorem Config.combinedSettings_matchKind (c : Config) :
    c.combinedSettings.matchKind = .all := by
  unfold combinedSettings
  cases c.combinedLimit? <;> rfl

theorem Config.settings_captures (c : Config) : c.settings.captures ≠ .none := by
  change Captures.all ≠ .none
  decide

section Searches

variable (searches : B.Searches L)

include searches in
theorem first_of_findFirst {p : String} {one : B.One} {span : Span}
    (hone : (engine B c).compileSingle p = .ok one) (clear : L.Clear c.options [p] h)
    (hfound : (engine B c).findFirst one h = .ok (some span)) : L.First c.options p h span :=
  searches.find_first rfl c.settings_captures hone clear (Except.ok.inj hfound)

include searches in
/-- A pattern is found alone exactly if it occurs. -/
theorem finds_iff {p : String} {one : B.One} (hone : (engine B c).compileSingle p = .ok one)
    (clear : L.Clear c.options [p] h) :
    (engine B c).Finds one h ↔ ∃ i j, L.Occurs c.options p h i j := by
  constructor
  · rintro ⟨span, hfound⟩
    obtain ⟨r, hr, hoccurs, -⟩ := first_of_findFirst searches hone clear hfound
    exact ⟨span.start, span.stop, r, hr, hoccurs⟩
  · rintro ⟨i, j, hoccurs⟩
    obtain ⟨span, hfound⟩ := searches.find_some rfl c.settings_captures hone clear hoccurs
    exact ⟨span, congrArg Except.ok hfound⟩

include searches in
/-- A pattern is inserted with others exactly if it is found alone. -/
theorem mem_whichMatch_iff {ps : List String} {ones : List B.One} {many : B.Many}
    (hc : (engine B c).Compiles ps ones many) (clear : L.Clear c.options ps h) {n : Nat}
    (hn : ps.length ≤ n) (i : Nat) :
    i ∈ (B.whichMatch many h (.new n)).toList ↔
      ∃ one, ones[i]? = some one ∧ (engine B c).Finds one h := by
  rw [searches.which_iff c.combinedSettings_matchKind hc.together clear hn]
  constructor
  · rintro ⟨p, hp, hoccurs⟩
    have hi : i < ones.length := hc.alone.length_eq ▸ (List.getElem?_eq_some_iff.1 hp).1
    have hone := List.getElem?_eq_getElem hi
    obtain ⟨p', hp', hcompiled⟩ := hc.alone.getElem?_eq_some_iff.1 hone
    obtain rfl := Option.some.inj (hp.symm.trans hp')
    have hclear := clear.of_mem (List.mem_of_getElem? hp)
    exact ⟨ones[i], hone, (finds_iff searches hcompiled hclear).2 hoccurs⟩
  · rintro ⟨one, hone, hfinds⟩
    obtain ⟨p, hp, hcompiled⟩ := hc.alone.getElem?_eq_some_iff.1 hone
    have hclear := clear.of_mem (List.mem_of_getElem? hp)
    exact ⟨p, hp, (finds_iff searches hcompiled hclear).1 hfinds⟩

include searches in
/-- Where the options ask for UTF-8, the engine is exact on valid UTF-8. -/
theorem exactOn (ho : c.options.utf8 = true) (hvalid : Utf8.Valid h) :
    (engine B c).ExactOn h where
  first_found p one _ := ⟨B.find one h, rfl⟩
  inserts_found ps ones many hc := by
    have clear : L.Clear c.options ps h := .inr ⟨ho, hvalid⟩
    obtain ⟨is, hlt, heq⟩ := searches.inserts hc.together h (.new ps.length)
    refine ⟨is, Prod.ext heq rfl, fun i => ?_⟩
    refine Iff.trans ?_ (mem_whichMatch_iff searches hc clear (Nat.le_refl _) i)
    rw [heq, Candidates.mem_toList_insertAll, Candidates.toList_new, Candidates.capacity_new,
      or_iff_left List.not_mem_nil]
    exact ⟨fun hi => ⟨hi, hlt i hi⟩, fun hi => hi.1⟩

include searches in
/-- If no pattern can match nothing, or if options and haystack keep to UTF-8, patterns are found
along with others exactly if they are found alone. -/
theorem together_agrees_with_alone {ps : List String} {ones : List B.One} {many : B.Many}
    (hc : (engine B c).Compiles ps ones many) (clear : L.Clear c.options ps h) {n : Nat}
    (hn : ps.length ≤ n) :
    ∃ found, (engine B c).whichMatch many h (.new n) = (found, .ok ()) ∧
      ∀ i, i ∈ found.toList ↔ ∃ one, ones[i]? = some one ∧ (engine B c).Finds one h :=
  ⟨_, rfl, mem_whichMatch_iff searches hc clear hn⟩

end Searches

/-! ## A letter with the empty pattern -/

/-- The expression of the pattern that is the letter "a". -/
def letterA : Regex := .char (.singleton 0x61)

theorem compiles_empty_letterA :
    (engine walking {}).Compiles ["", "a"] [.empty, letterA] [.empty, letterA] where
  alone := .cons (by cbv) (.cons (by cbv) .nil)
  together := by cbv

theorem letterA_found_with_empty :
    walking.Searches .walks ∧
      (engine walking {}).Compiles ["", "a"] [.empty, letterA] [.empty, letterA] ∧
      Language.walks.Clear {} ["", "a"] [0x61] ∧ ["", "a"].length ≤ 2 ∧
      ∃ found, (engine walking {}).whichMatch [.empty, letterA] [0x61] (.new 2) = (found, .ok ()) ∧
        1 ∈ found.toList := by
  have clear : Language.walks.Clear {} ["", "a"] [0x61] := .inr ⟨rfl, [0x61], by decide, by decide⟩
  obtain ⟨found, hfound, hiff⟩ := together_agrees_with_alone searches_walking
    compiles_empty_letterA clear (Nat.le_refl 2)
  refine ⟨searches_walking, compiles_empty_letterA, clear, Nat.le_refl 2, found, hfound, ?_⟩
  exact (hiff 1).2 ⟨letterA, rfl, ⟨0, 1⟩, by cbv⟩

/-- Walks find the letter alone before a byte that would continue a character, but along with the
empty pattern they do not. -/
theorem not_together_iff_alone :
    ¬ ∀ (c : Config) (ps : List String) (ones : List Regex) (many : List Regex),
      (engine walking c).Compiles ps ones many → ∀ (h : Haystack) (n : Nat), ps.length ≤ n →
        ∀ i, i ∈ ((engine walking c).whichMatch many h (.new n)).1.toList ↔
          ∃ one, ones[i]? = some one ∧ (engine walking c).Finds one h := by
  intro hall
  have hiff := hall {} _ _ _ compiles_empty_letterA [0x61, 0x80] 2 (Nat.le_refl 2) 1
  have htogether : ((engine walking {}).whichMatch [.empty, letterA] [0x61, 0x80]
      (.new 2)).1.toList = [0] := by cbv
  have halone : (engine walking {}).findFirst letterA [0x61, 0x80] = .ok (some ⟨0, 1⟩) := by cbv
  have hmem := hiff.2 ⟨letterA, rfl, ⟨0, 1⟩, halone⟩
  rw [htogether] at hmem
  cases List.mem_singleton.1 hmem

end Multimatch.General
