import Multimatch.Proofs.Collecting

/-!
# Where the first match ends

A walk for the first end stops at the least end of all matches that it can still find. If an
expression can match nothing, an end within a character does not count, and the search starts again
from the next place, whatever the end was. So it can pass over a match that it was in the middle of:
one that begins before an empty match within a character and ends behind it. The ends that it finds
are those that surface, which no end of a match that begins later goes before.
-/
namespace Multimatch.Search

variable {h : Haystack} {i e : Nat} {rs : List Regex} {quits : IntervalSet}
  {fields : List (List Thread)}

/-- The least number of some kind, if there is one of that kind. -/
def Least (P : Nat → Prop) : Option Nat → Prop
  | none => ∀ e, ¬ P e
  | some e => P e ∧ ∀ e', P e' → e ≤ e'

theorem Least.congr {P Q : Nat → Prop} {found : Option Nat} (hiff : ∀ e, P e ↔ Q e) :
    Least P found ↔ Least Q found := by
  rw [funext fun e => propext (hiff e)]

/-! ## Walks for the first end -/

/-- Whether a walk can still find a match with a certain end. -/
def AnyReaches (h : Haystack) (rs : List Regex) (i : Nat) (fields : List (List Thread))
    (e : Nat) : Prop :=
  ∃ m, FieldReaches h rs i fields m e

theorem AnyReaches.le (hr : AnyReaches h rs i fields e) : i ≤ e := by
  obtain ⟨m, r, threads, -, -, hreaches⟩ := hr
  exact hreaches.le

/-- What a walk for the first end does at a place before some byte: it has nothing left to do, it is
given up, it is at the end of a match, or it goes on. -/
theorem firstEnd_cons {going : Bool} {b : UInt8} {behind ahead : List UInt8} :
    firstEnd quits rs going fields behind i (b :: ahead) =
      if exhausted rs going fields then .ok none
      else if quits.contains b.toNat then .error ⟨b, i⟩
      else if (matchedFields (settleFields rs behind i fields (b :: ahead))).contains true then
        .ok (some i)
      else firstEnd quits rs false
        (feedFields b (settleFields rs behind i fields (b :: ahead))) (b :: behind)
        (i + 1) ahead := rfl

theorem contains_matchedFields_iff (hi : i ≤ h.length) :
    (matchedFields (settleFields rs (h.take i).reverse i fields (h.drop i))).contains true = true ↔
      AnyReaches h rs i fields i := by
  unfold AnyReaches
  simp only [← mem_marked_iff hi, Candidates.mem_markedFrom, Nat.zero_le, true_and, Nat.sub_zero]
  rw [List.contains_iff_mem, List.mem_iff_getElem?]

/-- What is still to be found ends here, or is to be found after the next byte. -/
theorem anyReaches_iff {b : UInt8} (hi : i < h.length) (hdrop : h.drop i = b :: h.drop (i + 1)) :
    AnyReaches h rs i fields e ↔ (e = i ∧ AnyReaches h rs i fields i) ∨
      AnyReaches h rs (i + 1) (feedFields b
        (settleFields rs (h.take i).reverse i fields (b :: h.drop (i + 1)))) e := by
  constructor
  · rintro ⟨m, hm⟩
    rcases (exists_fieldReaches_iff hi hdrop (· = e)).1 ⟨e, hm, rfl⟩ with
      ⟨hhere, rfl⟩ | ⟨_, hlater, rfl⟩
    · exact .inl ⟨rfl, m, hhere⟩
    · exact .inr ⟨m, hlater⟩
  · rintro (⟨rfl, hhere⟩ | ⟨m, hm⟩)
    · exact hhere
    · obtain ⟨_, hm', rfl⟩ := (exists_fieldReaches_iff hi hdrop (· = e)).2 (.inr ⟨e, hm, rfl⟩)
      exact ⟨m, hm'⟩

theorem least_here (hr : AnyReaches h rs i fields i) :
    Least (AnyReaches h rs i fields) (some i) := ⟨hr, fun _ => AnyReaches.le⟩

/-- If nothing ends here, what is still to be found is to be found after the next byte. -/
theorem anyReaches_later {b : UInt8} (hi : i < h.length) (hdrop : h.drop i = b :: h.drop (i + 1))
    (hnone : ¬ AnyReaches h rs i fields i) :
    AnyReaches h rs (i + 1) (feedFields b
      (settleFields rs (h.take i).reverse i fields (b :: h.drop (i + 1)))) e ↔
        AnyReaches h rs i fields e := by
  rw [anyReaches_iff hi hdrop]
  refine (or_iff_right ?_).symm
  rintro ⟨-, hany⟩
  exact hnone hany

/-- A walk that is not given up finds the least end that it can still find. -/
theorem firstEnd_eq_ok {going : Bool} {found : Option Nat} (hi : i ≤ h.length)
    (hok : firstEnd quits rs going fields (h.take i).reverse i (h.drop i) = .ok found) :
    Least (AnyReaches h rs i fields) found := by
  induction hn : h.length - i generalizing i going fields with
  | zero =>
    obtain rfl : i = h.length := by omega
    have hhere : (matchedFields (settleFields rs (h.take h.length).reverse h.length fields
        (h.drop h.length))).contains true = true ↔ AnyReaches h rs h.length fields h.length :=
      contains_matchedFields_iff (Nat.le_refl h.length)
    have hdrop : h.drop h.length = [] := List.drop_length
    rw [hdrop] at hok hhere
    rw [firstEnd] at hok
    split at hok
    · next hany =>
      obtain rfl := Except.ok.inj hok
      exact least_here (hhere.1 hany)
    · next hnone =>
      obtain rfl := Except.ok.inj hok
      rintro e ⟨m, hm⟩
      obtain ⟨r, threads, -, -, hreaches⟩ := id hm
      rw [hreaches.eq_length] at hm
      exact hnone (hhere.2 ⟨m, hm⟩)
  | succ n ih =>
    have hlt : i < h.length := by omega
    obtain ⟨b, hdrop, hbehind⟩ := drop_of_lt hlt
    have hhere : (matchedFields
        (settleFields rs (h.take i).reverse i fields (h.drop i))).contains true = true ↔
          AnyReaches h rs i fields i := contains_matchedFields_iff hi
    rw [hdrop] at hok hhere
    rw [firstEnd_cons] at hok
    split at hok
    · next hstop =>
      obtain rfl := Except.ok.inj hok
      rintro e ⟨m, hm⟩
      exact not_fieldReaches_of_exhausted hstop hm
    · split at hok
      · cases hok
      · split at hok
        · next hany =>
          obtain rfl := Except.ok.inj hok
          exact least_here (hhere.1 hany)
        · next hnone =>
          rw [hbehind] at hok
          have hlater : ¬ AnyReaches h rs i fields i := fun hany => hnone (hhere.2 hany)
          exact (Least.congr fun e => anyReaches_later hlt hdrop hlater).1 (ih hlt hok (by omega))

theorem exists_firstEnd {going : Bool} {behind ahead : List UInt8} :
    ∃ found, firstEnd .empty rs going fields behind i ahead = .ok found := by
  induction ahead generalizing going fields behind i with
  | nil => exact ⟨_, rfl⟩
  | cons b ahead ih =>
    rw [firstEnd_cons]
    split
    · exact ⟨_, rfl⟩
    · split
      · next hquit => cases hquit
      · split
        · exact ⟨_, rfl⟩
        · exact ih

/-! ## Searches -/

def firstEndFrom (quits : IntervalSet) (rs : List Regex) (behind : List UInt8) (offset : Nat)
    (ahead : List UInt8) : Except Quit (Option Nat) :=
  firstEnd quits rs true (fieldsAt rs offset) behind offset ahead

theorem earliestEnd_eq (quits : IntervalSet) (rs : List Regex) (h : Haystack) :
    earliestEnd quits rs h = if anyNullable rs then untilBoundary (firstEndFrom quits rs) [] 0 h
      else firstEndFrom quits rs [] 0 h := rfl

def Found (h : Haystack) (rs : List Regex) (s e : Nat) : Prop :=
  s ≤ h.length ∧ ∃ r ∈ rs, r.Matches h s e

def EndsFrom (h : Haystack) (rs : List Regex) (i e : Nat) : Prop :=
  ∃ s, i ≤ s ∧ Found h rs s e

theorem EndsFrom.le (he : EndsFrom h rs i e) : i ≤ e := by
  obtain ⟨s, hs, -, r, -, hm⟩ := he
  exact Nat.le_trans hs hm.le

theorem EndsFrom.mono {j : Nat} (he : EndsFrom h rs j e) (hij : i ≤ j) : EndsFrom h rs i e := by
  obtain ⟨s, hs, hfound⟩ := he
  exact ⟨s, Nat.le_trans hij hs, hfound⟩

theorem anyReaches_fieldsAt_iff (hi : i ≤ h.length) :
    AnyReaches h rs i (fieldsAt rs i) e ↔ EndsFrom h rs i e := by
  constructor
  · rintro ⟨m, hm⟩
    obtain ⟨r, hr, s, hs, hlast, hmatch⟩ := (fieldReaches_fieldsAt hi).1 hm
    exact ⟨s, hs, hlast, r, List.mem_of_getElem? hr, hmatch⟩
  · rintro ⟨s, hs, hlast, r, hr, hmatch⟩
    obtain ⟨m, hm⟩ := List.mem_iff_getElem?.1 hr
    exact ⟨m, (fieldReaches_fieldsAt hi).2 ⟨r, hm, s, hs, hlast, hmatch⟩⟩

/-- From a place, the least end of all matches that begin there or later is found. -/
theorem firstEndFrom_eq_ok {found : Option Nat} (hi : i ≤ h.length)
    (hok : firstEndFrom quits rs (h.take i).reverse i (h.drop i) = .ok found) :
    Least (EndsFrom h rs i) found :=
  (Least.congr fun _ => anyReaches_fieldsAt_iff hi).1 (firstEnd_eq_ok hi hok)

/-! ## Whether anything is found -/

/-- The end of a match surfaces if it counts and, of the matches that begin at a certain place or
later, none ends before it. -/
def Surfaces (h : Haystack) (rs : List Regex) (e : Nat) : Prop :=
  Counts h rs e ∧ ∃ i, Least (EndsFrom h rs i) (some e)

/-- From one place after another, a search finds the ends that are the least ones from some of these
places and do not lie within a character. -/
theorem untilBoundary_firstEndFrom {found : Option Nat} (hi : i ≤ h.length)
    (hok : untilBoundary (firstEndFrom quits rs) (h.take i).reverse i (h.drop i) = .ok found) :
    found.isSome = true ↔
      ∃ j e, i ≤ j ∧ Utf8.isBoundary (h.drop e) = true ∧ Least (EndsFrom h rs j) (some e) := by
  induction hn : h.length - i using Nat.strongRecOn generalizing i with
  | _ left ih =>
  have hle : ∀ stop, firstEndFrom quits rs (h.take i).reverse i (h.drop i) = .ok (some stop) →
      i ≤ stop := by
    intro stop hseek
    exact (firstEndFrom_eq_ok hi hseek).1.le
  rcases untilBoundary_seek_cases hi hle hok with
    ⟨hseek, rfl⟩ | ⟨stop, hseek, ⟨hstop, rfl⟩ | ⟨hwithin, hrest⟩⟩
  · have hleast := firstEndFrom_eq_ok hi hseek
    refine iff_of_false nofun ?_
    rintro ⟨j, e, hij, -, he, -⟩
    exact hleast e (he.mono hij)
  · have hleast := firstEndFrom_eq_ok hi hseek
    exact iff_of_true rfl ⟨i, stop, Nat.le_refl i, hstop, hleast⟩
  · have hleast := firstEndFrom_eq_ok hi hseek
    have hnot : ∀ e, Utf8.isBoundary (h.drop e) = true → ¬ Least (EndsFrom h rs i) (some e) := by
      intro e hbound he
      rw [Nat.le_antisymm (he.2 stop hleast.1) (hleast.2 e he.1), hwithin] at hbound
      cases hbound
    rcases hrest with ⟨rfl, rfl⟩ | ⟨hlt, hgo⟩
    · refine iff_of_false nofun ?_
      rintro ⟨j, e, hij, hbound, he⟩
      obtain ⟨s, hs, hlast, -⟩ := id he.1
      obtain rfl : j = h.length := by omega
      exact hnot e hbound he
    · rw [ih _ (by omega) hlt hgo rfl]
      constructor
      · rintro ⟨j, e, hij, hrest⟩
        exact ⟨j, e, Nat.le_of_succ_le hij, hrest⟩
      · rintro ⟨j, e, hij, hbound, he⟩
        refine ⟨j, e, ?_, hbound, he⟩
        by_contra hnext
        obtain rfl : j = i := by omega
        exact hnot e hbound he

/-- A search for the first end that is not given up finds one if an end surfaces. -/
theorem isSome_earliestEnd_iff {found : Option Nat} (hok : earliestEnd quits rs h = .ok found) :
    found.isSome = true ↔ ∃ e, Surfaces h rs e := by
  rw [earliestEnd_eq] at hok
  split at hok
  · next hnull =>
    rw [untilBoundary_firstEndFrom (i := 0) (Nat.zero_le _) hok]
    constructor
    · rintro ⟨j, e, -, hbound, he⟩
      exact ⟨e, fun _ => hbound, j, he⟩
    · rintro ⟨e, hcounts, j, he⟩
      exact ⟨j, e, Nat.zero_le j, hcounts hnull, he⟩
  · next hnull =>
    have hleast := firstEndFrom_eq_ok (i := 0) (Nat.zero_le _) hok
    cases found with
    | none =>
      refine iff_of_false nofun ?_
      rintro ⟨e, -, j, he, -⟩
      exact hleast e (he.mono (Nat.zero_le j))
    | some first => exact iff_of_true rfl ⟨first, fun hany => absurd hany hnull, 0, hleast⟩

/-- If no expression can match nothing, no match is passed over. -/
theorem earliestEnd_ne_none {s : Nat} (hnone : anyNullable rs = false) (hfound : Found h rs s e) :
    earliestEnd quits rs h ≠ .ok none := by
  intro hok
  rw [earliestEnd_eq, hnone, if_neg Bool.false_ne_true] at hok
  exact firstEndFrom_eq_ok (i := 0) (Nat.zero_le _) hok e ⟨s, Nat.zero_le s, hfound⟩

theorem exists_earliestEnd (rs : List Regex) (h : Haystack) :
    ∃ found, earliestEnd .empty rs h = .ok found := by
  rw [earliestEnd_eq]
  split
  · exact exists_untilBoundary (fun _ _ _ => exists_firstEnd) [] 0 h
  · exact exists_firstEnd

end Multimatch.Search
