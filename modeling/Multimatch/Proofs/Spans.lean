import Multimatch.Proofs.Answers
import Multimatch.Proofs.Candidacy

/-!
# Spans of whole characters

Where the options ask for UTF-8, a match takes characters one by one, whatever the bytes around it
are. So the bytes in a span that is found are the encodings of characters, one after another, and a
set that asks for the whole haystack finds nothing in one that is not UTF-8.
-/
namespace Multimatch

def Span.bytes (span : Span) (h : Haystack) : List UInt8 := (h.take span.stop).drop span.start

/-- The bytes that a match takes, characters one by one, are UTF-8. -/
theorem Regex.Matches.valid {h : Haystack} {i j : Nat} {r : Regex} (hm : r.Matches h i j)
    (hr : r.TakesCharacters) : Utf8.Valid ((h.take j).drop i) := by
  have hstart : i ≤ i ∧ Utf8.Valid ((h.take i).drop i) := by
    rw [List.drop_eq_nil_of_le (List.length_take_le i h)]
    exact ⟨Nat.le_refl i, Utf8.valid_nil⟩
  refine (hm.carry (P := fun k => i ≤ k ∧ Utf8.Valid ((h.take k).drop i)) hr ?_ hstart).2
  rintro k c ⟨hik, hvalid⟩ hc hprefix
  obtain ⟨b, rest, hcons, -⟩ := Utf8.exists_encode_eq_cons hc
  have htaken : h.take (k + (Utf8.encode c).length) = h.take k ++ Utf8.encode c := by
    rw [List.take_add, ← List.prefix_iff_eq_take.1 hprefix]
  have hlength : i ≤ (h.take k).length := by
    have hle := hprefix.length_le
    rw [hcons, List.length_cons, List.length_drop] at hle
    rw [List.length_take]
    omega
  refine ⟨by omega, ?_⟩
  rw [htaken, List.drop_append_of_le_length hlength]
  exact hvalid.append_encode hc

namespace Engine

variable {E : Engine} {L : Language} {o : Pattern.Options} {p : String} {single : E.Single}
  {h : Haystack} {span : Span}

/-- The engines that leave it to backends to search, with the options that they have patterns read
under. -/
inductive Searches (L : Language) : Engine → Pattern.Options → Prop
  | general {B : General.Backend} (c : General.Config) :
    B.Searches L → Searches L (General.engine B c) c.options
  | dense {B : Dense.Backend} {sievesNone : B.Settings → Prop} (c : Dense.Config B) :
    B.Searches L sievesNone → Searches L (Dense.engine B c) c.options

theorem Searches.onlyInserts (searches : E.Searches L o) : E.OnlyInserts := by
  cases searches with
  | general c searches => exact General.onlyInserts searches c
  | dense c searches => exact Dense.onlyInserts searches c

theorem Searches.exists_matches (searches : E.Searches L o) (hp : E.compileSingle p = .ok single)
    (hfound : E.findFirst single h = .ok (some span)) :
    ∃ r, L.read o p = some r ∧ span.start ≤ h.length ∧ r.Matches h span.start span.stop := by
  cases searches with
  | general c searches =>
    exact searches.find_match rfl c.settings_captures hp (Except.ok.inj hfound)
  | dense c searches => exact searches.find_match hp hfound

/-- A span that is found lies in the haystack, and holds whole characters. -/
theorem Searches.span_valid (searches : E.Searches L o) (takes : L.TakesCharacters)
    (ho : o.utf8 = true) (hp : E.compileSingle p = .ok single)
    (hfound : E.findFirst single h = .ok (some span)) :
    span.start ≤ span.stop ∧ span.stop ≤ h.length ∧ Utf8.Valid (span.bytes h) := by
  obtain ⟨r, hr, hstart, hm⟩ := searches.exists_matches hp hfound
  exact ⟨hm.le, hm.le_length hstart, hm.valid (takes ho hr)⟩

end Engine

namespace PatternSet

variable {E : Engine} {s : PatternSet E} {h : Haystack}

/-! ## What anchored sets find -/

theorem Consistent.exists_pattern (hs : s.Consistent) {i : Nat} {single : E.Single}
    (hi : s.verifiers[i]? = some single) : ∃ p, E.compileSingle p = .ok single := by
  by_cases hkept : s.anchor.needsSpan = true ∧ s.isFailed = false
  · obtain ⟨p, -, hp⟩ := (hs.verifiers_eq hkept.1 hkept.2).getElem?_eq_some_iff.1 hi
    exact ⟨p, hp⟩
  · have hnone : s.anchor.needsSpan = false ∨ s.isFailed = true := by
      rw [not_and_or, Bool.not_eq_true, Bool.not_eq_false] at hkept
      exact hkept
    rw [hs.no_verifiers hnone] at hi
    cases hi

theorem Consistent.accepts_of_matchesOf (hs : s.Consistent) (inserts : E.OnlyInserts)
    (anchored : s.anchor ≠ .unanchored) {m : Matches} (hm : (s.matchesOf h).answer = .ok m)
    {i : Nat} (hi : i ∈ m.indices) : s.Accepts h i := by
  cases hc : s.isCompiled with
  | false =>
    rw [matchesOf_early hc] at hm
    cases hm
  | true =>
    obtain ⟨combined, scratch, hstage⟩ := isCompiled_iff.1 hc
    obtain ⟨-, -, hmem⟩ := hs.matchesOf_eq_ok inserts hstage hm
    rcases ((hmem i).1 hi).2 with hnot | haccepts
    · exact absurd hnot anchored
    · exact haccepts

theorem Consistent.exists_accepts_of_isMatch (hs : s.Consistent) (inserts : E.OnlyInserts)
    (anchored : s.anchor ≠ .unanchored) (hmatch : (s.isMatch h).answer = .ok true) :
    ∃ i, s.Accepts h i := by
  have hspan := s.anchor.needsSpan_iff.2 anchored
  rcases hs.anchored_cases hspan h with
    ⟨error, hany, -⟩ | ⟨combined, scratch, scratch', hstage, hany, -⟩
  · rw [hany] at hmatch
    cases hmatch
  · rw [hany, finish_eq_ok_iff] at hmatch
    have hh := hs.holds_candidates inserts hstage hspan h
    obtain ⟨i, -, haccepts, -⟩ :=
      (anyAcceptedOf_eq_true_iff (s.pairwise_candidates combined h) hh).1 hmatch
    exact ⟨i, haccepts⟩

/-- An anchored set that accepts no pattern finds nothing. -/
theorem Consistent.finds_nothing (hs : s.Consistent) (inserts : E.OnlyInserts)
    (anchored : s.anchor ≠ .unanchored) (hnone : ∀ i, ¬ s.Accepts h i) :
    (∀ m, (s.matchesOf h).answer = .ok m → m = .empty) ∧ (s.isMatch h).answer ≠ .ok true := by
  constructor
  · rintro ⟨indices⟩ hm
    have hnil : indices = [] := by
      rw [List.eq_nil_iff_forall_not_mem]
      intro i hi
      exact hnone i (hs.accepts_of_matchesOf inserts anchored hm hi)
    rw [hnil]
    rfl
  · intro hmatch
    obtain ⟨i, haccepts⟩ := hs.exists_accepts_of_isMatch inserts anchored hmatch
    exact hnone i haccepts

/-- A set that asks for the whole haystack accepts none that is not UTF-8. -/
theorem Consistent.valid_of_accepts (hs : s.Consistent) {L : Language} {o : Pattern.Options}
    (searches : E.Searches L o) (takes : L.TakesCharacters) (ho : o.utf8 = true)
    (hanchor : s.anchor = .both) {i : Nat} (haccepts : s.Accepts h i) : Utf8.Valid h := by
  obtain ⟨span, hfirst, hcovers⟩ := haccepts
  obtain ⟨single, hi, hfound⟩ := Option.map_eq_some_iff.1 hfirst
  obtain ⟨p, hp⟩ := hs.exists_pattern hi
  obtain ⟨-, -, hvalid⟩ := searches.span_valid takes ho hp hfound
  rw [hanchor] at hcovers
  have hwhole : span.bytes h = h := by
    rw [Span.bytes, hcovers.1, hcovers.2, List.take_length, List.drop_zero]
  exact hwhole ▸ hvalid

/-- Where the options ask for UTF-8, each span that is found lies in the haystack and holds whole
characters, whatever the haystack; so a set that asks for the whole haystack finds nothing in one
that is not UTF-8. -/
theorem spans_hold_characters {L : Language} {o : Pattern.Options} (searches : E.Searches L o)
    (takes : L.TakesCharacters) (ho : o.utf8 = true) :
    (∀ p single, E.compileSingle p = .ok single →
      ∀ h span, E.findFirst single h = .ok (some span) →
        span.start ≤ span.stop ∧ span.stop ≤ h.length ∧ Utf8.Valid (span.bytes h)) ∧
      ∀ s : PatternSet E, s.Reachable → s.anchor = .both → ∀ h, ¬ Utf8.Valid h →
        (∀ m, (s.matchesOf h).answer = .ok m → m = .empty) ∧
          (s.isMatch h).answer ≠ .ok true := by
  refine ⟨fun p single hp h span hfound => searches.span_valid takes ho hp hfound, ?_⟩
  intro s reached hanchor h hinvalid
  have hs := reached.consistent searches.onlyInserts
  have anchored : s.anchor ≠ .unanchored := by
    rw [hanchor]
    decide
  refine hs.finds_nothing searches.onlyInserts anchored ?_
  intro i haccepts
  exact hinvalid (hs.valid_of_accepts searches takes ho hanchor haccepts)

def wholeLetterA : PatternSet (General.engine General.walking {}) :=
  (new _ .both).after [.add "a", .compile]

theorem letterA_before_stray_byte :
    (General.engine General.walking {}).Searches .walks {} ∧ Language.walks.TakesCharacters ∧
      ({} : Pattern.Options).utf8 = true ∧
      (General.engine General.walking {}).compileSingle "a" = .ok General.letterA ∧
      (General.engine General.walking {}).findFirst General.letterA [0x61, 0x80] =
        .ok (some ⟨0, 1⟩) ∧
      Utf8.Valid ((⟨0, 1⟩ : Span).bytes [0x61, 0x80]) ∧
      wholeLetterA.Reachable ∧ wholeLetterA.isCompiled = true ∧ wholeLetterA.anchor = .both ∧
      ¬ Utf8.Valid [0x61, 0x80] ∧ (wholeLetterA.isMatch [0x61, 0x80]).answer ≠ .ok true := by
  have searches : (General.engine General.walking {}).Searches .walks {} :=
    .general {} General.searches_walking
  have hp : (General.engine General.walking {}).compileSingle "a" = .ok General.letterA := by cbv
  have hfound : (General.engine General.walking {}).findFirst General.letterA [0x61, 0x80] =
      .ok (some ⟨0, 1⟩) := by cbv
  have reached : wholeLetterA.Reachable := (Reachable.new .both).after _
  have hanchor : wholeLetterA.anchor = .both := by cbv
  have hinvalid : ¬ Utf8.Valid [0x61, 0x80] := by
    intro hvalid
    have hrest : Utf8.Valid [0x80] := hvalid.drop_encode (c := 0x61) rfl ⟨[0x80], rfl⟩
    cases Utf8.isBoundary_of_valid hrest
  obtain ⟨hspans, hsets⟩ := spans_hold_characters searches Language.takesCharacters_walks rfl
  obtain ⟨-, -, hvalid⟩ := hspans "a" _ hp _ _ hfound
  obtain ⟨-, hmatch⟩ := hsets wholeLetterA reached hanchor [0x61, 0x80] hinvalid
  exact ⟨searches, Language.takesCharacters_walks, rfl, hp, hfound, hvalid, reached, by cbv,
    hanchor, hinvalid, hmatch⟩

end PatternSet

end Multimatch
