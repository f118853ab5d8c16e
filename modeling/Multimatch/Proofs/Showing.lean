import Multimatch.Proofs.Lifecycle
import Multimatch.Proofs.Quoting

/-!
# Texts that show sets

The text of a set names its anchor, lists its patterns, each of them quoted, and names how far the
set has come. `Shown` is the form of such a text. Its parts are delimited, so whatever characters
the patterns are made of, a text shows sets of one kind only: those with one anchor, one list of
patterns and one phase, over whichever engine.
-/
namespace Multimatch

namespace Text

/-! ## Lists of quoted texts -/

/-- What stands for a text that others stand before in a list. -/
def Follows (t : List Char) (text : String) : Prop := ∃ q, Quotes q text ∧ t = ',' :: ' ' :: q

/-- What stands for a list of texts, from behind its opening bracket to the closing one. -/
inductive Lists : List Char → List String → Prop
  | nil : Lists [']'] []
  | cons {q t : List Char} {text : String} {texts : List String} :
      Quotes q text → ClosedBy ']' Follows t texts → Lists (q ++ t) (text :: texts)

theorem follows_iff {t : List Char} {text : String} :
    Follows t text ↔ t = [',', ' '] ++ quoted text := by
  simp only [Follows, quotes_iff, exists_eq_left, List.cons_append, List.nil_append]

theorem intercalate_cons (sep e : List Char) (es : List (List Char)) :
    sep.intercalate (e :: es) = e ++ es.flatMap (sep ++ ·) := by
  induction es generalizing e with
  | nil => rw [List.intercalate_singleton, List.flatMap_nil, List.append_nil]
  | cons e' es ih =>
    rw [List.intercalate_cons_cons, ih, List.flatMap_cons, List.append_assoc, List.append_assoc]

theorem lists_iff {t : List Char} {texts : List String} :
    Lists t texts ↔ t = [',', ' '].intercalate (texts.map quoted) ++ [']'] := by
  constructor
  · rintro (_ | ⟨hq, ht⟩)
    · rfl
    · rw [quotes_iff.1 hq, ht.eq_flatMap fun _ _ => follows_iff.1, List.map_cons, intercalate_cons,
        List.flatMap_map, List.append_assoc]
  · rintro rfl
    cases texts with
    | nil => exact .nil
    | cons text texts =>
      rw [List.map_cons, intercalate_cons, List.flatMap_map, List.append_assoc]
      exact .cons (quotes_iff.2 rfl) (closedBy_flatMap fun _ _ => follows_iff.2 rfl)

theorem delimited_follows : Delimited Follows := by
  rintro t t' r r' text text' ⟨q, hq, rfl⟩ ⟨q', hq', rfl⟩ heq
  exact delimited_quotes hq hq' (List.cons.inj (List.cons.inj heq).2).2

theorem neverOpens_follows : NeverOpens ']' Follows := by
  rintro t text ⟨q, -, rfl⟩
  exact ⟨',', _, by decide, rfl⟩

theorem neverOpens_quotes : NeverOpens ']' Quotes := by
  rintro q text ⟨t, -, rfl⟩
  exact ⟨'"', _, by decide, rfl⟩

theorem delimited_lists : Delimited Lists := by
  intro t t' r r' texts texts' ht ht' heq
  cases ht with
  | nil =>
    cases ht' with
    | nil => exact ⟨rfl, (List.cons.inj heq).2⟩
    | cons hq' _ =>
      rw [List.append_assoc] at heq
      exact absurd heq.symm (neverOpens_quotes.append_ne hq' _ _)
  | cons hq hrest =>
    rw [List.append_assoc] at heq
    cases ht' with
    | nil => exact absurd heq (neverOpens_quotes.append_ne hq _ _)
    | cons hq' hrest' =>
      rw [List.append_assoc] at heq
      obtain ⟨rfl, heq⟩ := delimited_quotes hq hq' heq
      obtain ⟨rfl, hr⟩ := delimited_follows.closedBy neverOpens_follows hrest hrest' heq
      exact ⟨rfl, hr⟩

/-! ## Names -/

/-- Names can be told from what follows them, if none is the beginning of another. -/
theorem delimited_of_prefixFree {α : Type} {name : α → List Char}
    (h : ∀ a b, name a <+: name b → a = b) : Delimited fun e a => e = name a := by
  rintro e e' r r' a b rfl rfl heq
  have hr : name a <+: name a ++ r := List.prefix_append _ r
  have hr' : name b <+: name a ++ r := heq ▸ List.prefix_append _ r'
  have hab : a = b := by
    rcases List.prefix_or_prefix_of_prefix hr hr' with hle | hle
    · exact h a b hle
    · exact (h b a hle).symm
  subst hab
  exact ⟨rfl, List.append_cancel_left heq⟩

end Text

theorem Anchor.delimited_name : Text.Delimited fun e (a : Anchor) => e = a.name.toList := by
  apply Text.delimited_of_prefixFree
  intro a b
  cases a <;> cases b <;> decide

theorem Phase.delimited_name : Text.Delimited fun e (f : Phase) => e = f.name.toList := by
  apply Text.delimited_of_prefixFree
  intro f g
  cases f <;> cases g <;> decide

/-! ## Sets -/

/-- The form of a text that shows sets with some anchor and some patterns in some phase. -/
def Shown (text : String) (anchor : Anchor) (patterns : List String) (phase : Phase) : Prop :=
  ∃ list, Text.Lists list patterns ∧
    text = "RegexSet \x7b anchor: " ++ anchor.name ++ ", patterns: [" ++ String.ofList list ++
      ", state: \"" ++ phase.name ++ "\" \x7d"

/-- What a text shows can be told from the text. -/
theorem Shown.unique {text : String} {a a' : Anchor} {ps ps' : List String} {f f' : Phase}
    (h : Shown text a ps f) (h' : Shown text a' ps' f') : a = a' ∧ ps = ps' ∧ f = f' := by
  obtain ⟨t, ht, rfl⟩ := h
  obtain ⟨t', ht', htext⟩ := h'
  have heq := String.toList_inj.2 htext
  simp only [String.append_assoc] at heq
  simp only [String.toList_append, String.toList_ofList] at heq
  obtain ⟨ha, heq⟩ := Anchor.delimited_name rfl rfl (List.append_cancel_left heq)
  obtain ⟨hps, heq⟩ := Text.delimited_lists ht ht' (List.append_cancel_left heq)
  obtain ⟨hf, -⟩ := Phase.delimited_name rfl rfl (List.append_cancel_left heq)
  exact ⟨ha, hps, hf⟩

namespace PatternSet

variable {E E' : Engine}

/-- A set is shown by its text and by no other. -/
theorem shown_iff (s : PatternSet E) {text : String} :
    Shown text s.anchor s.patterns s.stage.phase ↔ text = s.text := by
  have hform : s.text = "RegexSet \x7b anchor: " ++ s.anchor.name ++ ", patterns: [" ++
      String.ofList ([',', ' '].intercalate (s.patterns.map Text.quoted) ++ [']']) ++
        ", state: \"" ++ s.stage.phase.name ++ "\" \x7d" := by
    have hbracket : "], state: \"".toList = [']'] ++ ", state: \"".toList := rfl
    have hcomma : ", ".toList = [',', ' '] := rfl
    apply String.toList_inj.1
    unfold PatternSet.text
    simp only [Stage.name, String.toList_append, String.toList_intercalate,
      String.toList_ofList, List.map_map, Function.comp_def, hbracket, hcomma, List.append_assoc]
  rw [hform]
  simp only [Shown, Text.lists_iff, exists_eq_left]

/-- The text of a set is the one text of its form, with the patterns quoted character by character.
The texts of two sets, over any engines, are the same exactly if the sets have the same anchor, the
same patterns in the same order, and have come equally far. -/
theorem texts_tell_sets_apart (s : PatternSet E) (t : PatternSet E') :
    (∀ text, Shown text s.anchor s.patterns s.stage.phase ↔ text = s.text) ∧
      (s.text = t.text ↔
        s.anchor = t.anchor ∧ s.patterns = t.patterns ∧ s.stage.phase = t.stage.phase) := by
  refine ⟨fun _ => s.shown_iff, ?_, ?_⟩
  · intro htext
    have hs : Shown t.text s.anchor s.patterns s.stage.phase := s.shown_iff.2 htext.symm
    exact hs.unique (t.shown_iff.2 rfl)
  · rintro ⟨hanchor, hpatterns, hphase⟩
    have hs : Shown s.text s.anchor s.patterns s.stage.phase := s.shown_iff.2 rfl
    rw [hanchor, hpatterns, hphase] at hs
    exact t.shown_iff.1 hs

end PatternSet

end Multimatch
