import Multimatch.Proofs.Candidacy
import Multimatch.Proofs.Exactness

/-!
# What anchored sets find

An anchored set asks for one match of each candidate only, the first one. With options that ask for
UTF-8 and a haystack that is UTF-8, that is enough to tell whether any match begins at the start:
such matches begin first. Which of them is the preferred one decides whether the whole haystack is
covered, so a set that asks for that can pass over a pattern which has a match of the whole
haystack.
-/
namespace Multimatch.General

variable {B : Backend} {L : Language} {c : Config} {s : PatternSet (engine B c)} {h : Haystack}
  {i : Nat}

def ExpressionAt (L : Language) (s : PatternSet (engine B c)) (i : Nat) (r : Regex) : Prop :=
  ∃ p, s.patterns[i]? = some p ∧ L.read c.options p = some r

theorem ExpressionAt.unique {r r' : Regex} (hr : ExpressionAt L s i r)
    (hr' : ExpressionAt L s i r') : r = r' := by
  obtain ⟨p, hp, hread⟩ := hr
  obtain ⟨p', hp', hread'⟩ := hr'
  obtain rfl := Option.some.inj (hp.symm.trans hp')
  exact Option.some.inj (hread.symm.trans hread')

/-- A match from the start of a text in UTF-8 occurs, even if it takes nothing. -/
theorem occurs_of_matches {r : Regex} {e : Nat} (hvalid : Utf8.Valid h) (hm : r.Matches h 0 e) :
    r.Occurs h 0 e :=
  ⟨Nat.zero_le _, hm, fun _ => Utf8.isBoundary_of_valid hvalid⟩

section Searches

variable (searches : B.Searches L) (ho : c.options.utf8 = true) (hvalid : Utf8.Valid h)

include searches ho hvalid in
theorem exists_first_of_matches (hs : s.Consistent) {r : Regex} {e : Nat}
    (hr : ExpressionAt L s i r) (hm : r.Matches h 0 e) :
    ∃ p one stop, s.patterns[i]? = some p ∧ (engine B c).compileSingle p = .ok one ∧
      (engine B c).findFirst one h = .ok (some ⟨0, stop⟩) := by
  obtain ⟨p, hp, hread⟩ := hr
  obtain ⟨one, hone⟩ := hs.accepted p (List.mem_of_getElem? hp)
  have clear : L.Clear c.options [p] h := .inr ⟨ho, hvalid⟩
  have hoccurs := occurs_of_matches hvalid hm
  obtain ⟨⟨start, stop⟩, hfound⟩ := (finds_iff searches hone clear).2 ⟨0, e, r, hread, hoccurs⟩
  obtain ⟨r', hread', -, -, hleast⟩ := first_of_findFirst searches hone clear hfound
  obtain rfl := Option.some.inj (hread.symm.trans hread')
  obtain rfl : start = 0 := Nat.le_zero.1 (hleast 0 e hoccurs)
  exact ⟨p, one, stop, hp, hone, hfound⟩

include searches ho hvalid in
theorem hits_start_iff (hs : s.Consistent) (hanchor : s.anchor = .start) :
    s.Hits h i ↔ ∃ r, ExpressionAt L s i r ∧ ∃ e, r.Matches h 0 e := by
  constructor
  · rintro ⟨p, one, ⟨start, stop⟩, hp, hone, hfound, hcovers⟩
    rw [hanchor] at hcovers
    obtain rfl : start = 0 := hcovers
    have clear : L.Clear c.options [p] h := .inr ⟨ho, hvalid⟩
    obtain ⟨r, hread, hoccurs, -⟩ := first_of_findFirst searches hone clear hfound
    exact ⟨r, ⟨p, hp, hread⟩, stop, hoccurs.is_match⟩
  · rintro ⟨r, hr, e, hm⟩
    obtain ⟨p, one, stop, hp, hone, hfound⟩ :=
      exists_first_of_matches searches ho hvalid hs hr hm
    refine ⟨p, one, ⟨0, stop⟩, hp, hone, hfound, ?_⟩
    rw [hanchor]
    rfl

end Searches

end Multimatch.General
