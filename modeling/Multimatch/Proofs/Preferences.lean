import Multimatch.Proofs.Characters

/-!
# Which matches are preferred

The order of `Regex.ends` settles which of its matches an expression prefers, not which matches it
has. Greed has a bearing on that order alone: `Regex.plain` forgets it, and an expression has the
matches of its plain form. Options that differ in nothing but greed make expressions of a pattern
that have one plain form.
-/
namespace Multimatch

namespace Regex

variable {h : Haystack} {i j : Nat} {r : Regex}

/-- Whether an expression prefers the match up to a place of all that begin with it. -/
def Prefers (r : Regex) (h : Haystack) (i j : Nat) : Prop := (r.ends h i).head? = some j

theorem Prefers.matches (hp : r.Prefers h i j) : r.Matches h i j :=
  mem_ends_iff.1 (List.mem_of_head? hp)

/-- The expression without labels, and with every repetition greedy. -/
def plain : Regex → Regex
  | empty => empty
  | char s => char s
  | byte s => byte s
  | look l => look l
  | cat _ x y => cat 0 x.plain y.plain
  | alt _ x y => alt 0 x.plain y.plain
  | rep _ min max _ x => rep 0 min max true x.plain

/-- Greed has no bearing on what there is to prefer. -/
@[simp] theorem matches_plain (r : Regex) : r.plain.Matches h = r.Matches h := by
  induction r with
  | empty | char | byte | look => rfl
  | cat _ x y hx hy | alt _ x y hx hy =>
    funext i j
    simp only [plain, Matches, hx, hy]
  | rep _ min max greedy x hx =>
    funext i j
    simp only [plain, Matches, hx]

@[simp] theorem nullable_plain (r : Regex) : r.plain.nullable = r.nullable := by
  induction r with
  | empty | char | byte | look => rfl
  | cat _ x y hx hy | alt _ x y hx hy => simp only [plain, nullable, hx, hy]
  | rep _ min max greedy x hx => simp only [plain, nullable, hx]

@[simp] theorem zeroWidth_plain (r : Regex) : r.plain.zeroWidth = r.zeroWidth := by
  induction r with
  | empty | char | byte | look => rfl
  | cat _ x y hx hy | alt _ x y hx hy => simp only [plain, zeroWidth, hx, hy]
  | rep _ min max greedy x hx => simp only [plain, zeroWidth, hx]

theorem plain_ofRep (min : Nat) (max : Option Nat) (greedy : Bool) (x : Regex) :
    (ofRep min max greedy x).plain = ofRep min max true x.plain := by
  unfold ofRep
  rw [zeroWidth_plain]
  dsimp only
  rw [apply_ite plain, apply_ite plain]
  rfl

theorem plain_number (n : Nat) (r : Regex) : (r.number n).1.plain = r.plain := by
  induction r generalizing n with
  | empty | char | byte | look => rfl
  | cat _ x y hx hy | alt _ x y hx hy => simp only [number, plain, hx, hy]
  | rep _ min max greedy x hx => simp only [number, plain, hx]

end Regex

/-! ## Patterns -/

namespace Pattern

def Options.withGreed (o : Options) (swap : Bool) : Options := { o with swapGreed := swap }

def Flags.withGreed (f : Flags) (swap : Bool) : Flags := { f with swapGreed := swap }

/-- What two parts of patterns come to is the same apart from greed, now and in what follows. -/
structure Meaning.SameButGreed (m m' : Meaning) : Prop where
  regex : m'.regex.plain = m.regex.plain
  captures : m'.captures = m.captures
  flags : ∃ swap, m'.flags = m.flags.withGreed swap

variable {o : Options} {f : Flags}

/-- Under options and flags that differ in greed alone, a tree means the same apart from that. -/
theorem exists_meaning_withGreed {tree : Tree} {m : Meaning} (hm : tree.meaning o f = .ok m)
    (swap swap' : Bool) : ∃ m', tree.meaning (o.withGreed swap) (f.withGreed swap') = .ok m' ∧
      m.SameButGreed m' := by
  induction tree generalizing f m swap' with
  | empty | assertion =>
    obtain rfl := Except.ok.inj hm
    exact ⟨_, rfl, rfl, rfl, swap', rfl⟩
  | flags e =>
    obtain rfl := Except.ok.inj hm
    exact ⟨_, rfl, rfl, rfl, e.swapGreed.getD swap', rfl⟩
  | literal l =>
    obtain ⟨r, hr, hm⟩ := exists_of_bind_eq_ok hm
    obtain rfl := Except.ok.inj hm
    have hr' : l.regex (o.withGreed swap) (f.withGreed swap') = .ok r := hr
    exact ⟨_, bind_eq_of_eq_ok hr' _, rfl, rfl, swap', rfl⟩
  | dot =>
    obtain ⟨r, hr, hm⟩ := exists_of_bind_eq_ok hm
    obtain rfl := Except.ok.inj hm
    have hr' : dotRegex (o.withGreed swap) (f.withGreed swap') = .ok r := hr
    exact ⟨_, bind_eq_of_eq_ok hr' _, rfl, rfl, swap', rfl⟩
  | property p =>
    rw [Tree.meaning] at hm
    split at hm
    · next hunicode =>
      obtain ⟨s, hs, hm⟩ := exists_of_bind_eq_ok hm
      obtain rfl := Except.ok.inj hm
      have hunicode' : (f.withGreed swap').unicode = true := hunicode
      refine ⟨⟨.char s, 0, f.withGreed swap'⟩, ?_, rfl, rfl, swap', rfl⟩
      rw [Tree.meaning, if_pos hunicode']
      exact bind_eq_of_eq_ok hs _
    · cases hm
  | letter c negated =>
    obtain ⟨s, hs, hm⟩ := exists_of_bind_eq_ok hm
    obtain rfl := Except.ok.inj hm
    have hs' : (setRules (o.withGreed swap) (f.withGreed swap')).letterSet c negated = .ok s := hs
    exact ⟨_, bind_eq_of_eq_ok hs' _, rfl, rfl, swap', rfl⟩
  | bracket negated body =>
    obtain ⟨s, hs, hm⟩ := exists_of_bind_eq_ok hm
    obtain ⟨t, ht, hm⟩ := exists_of_bind_eq_ok hm
    obtain rfl := Except.ok.inj hm
    have hs' : body.set (setRules (o.withGreed swap) (f.withGreed swap'))
        (f.withGreed swap').caseInsensitive = .ok s := hs
    have ht' : (setRules (o.withGreed swap) (f.withGreed swap')).finish
        (f.withGreed swap').caseInsensitive negated s = .ok t := ht
    exact ⟨_, (bind_eq_of_eq_ok hs' _).trans (bind_eq_of_eq_ok ht' _), rfl, rfl, swap', rfl⟩
  | repetition x min max greedy ih =>
    obtain ⟨n, hn, hm⟩ := exists_of_bind_eq_ok hm
    obtain rfl := Except.ok.inj hm
    obtain ⟨n', hn', hsame⟩ := ih hn swap'
    refine ⟨_, bind_eq_of_eq_ok hn' _, ?_, ?_, hsame.flags⟩
    · dsimp only
      rw [Regex.plain_ofRep, Regex.plain_ofRep, hsame.regex]
    · dsimp only
      rw [hsame.captures]
  | group kind x ih =>
    cases kind with
    | capture =>
      obtain ⟨n, hn, hm⟩ := exists_of_bind_eq_ok hm
      obtain rfl := Except.ok.inj hm
      obtain ⟨n', hn', hsame⟩ := ih hn swap'
      exact ⟨_, bind_eq_of_eq_ok hn' _, hsame.regex, congrArg (· + 1) hsame.captures, swap', rfl⟩
    | flags e =>
      obtain ⟨n, hn, hm⟩ := exists_of_bind_eq_ok hm
      obtain rfl := Except.ok.inj hm
      obtain ⟨n', hn', hsame⟩ := ih hn (e.swapGreed.getD swap')
      exact ⟨_, bind_eq_of_eq_ok hn' _, hsame.regex, hsame.captures, swap', rfl⟩
  | cat x rest hx hrest | alt x rest hx hrest =>
    obtain ⟨n, hn, hm⟩ := exists_of_bind_eq_ok hm
    obtain ⟨k, hk, hm⟩ := exists_of_bind_eq_ok hm
    obtain rfl := Except.ok.inj hm
    obtain ⟨n', hn', hsame⟩ := hx hn swap'
    obtain ⟨swap'', hflags⟩ := hsame.flags
    obtain ⟨k', hk', hsame'⟩ := hrest hk swap''
    rw [← hflags] at hk'
    refine ⟨_, (bind_eq_of_eq_ok hn' _).trans (bind_eq_of_eq_ok hk' _), ?_, ?_, hsame'.flags⟩
    · simp only [Regex.plain, hsame.regex, hsame'.regex]
    · dsimp only
      rw [hsame.captures, hsame'.captures]

/-- With greed swapped, a pattern can be read as before, and apart from greed it says the same. -/
theorem exists_ofPattern_withGreed {p : String} {parsed : Parsed}
    (hparsed : Parsed.ofPattern o p = .ok parsed) (swap : Bool) :
    ∃ parsed', Parsed.ofPattern (o.withGreed swap) p = .ok parsed' ∧
      parsed'.regex.plain = parsed.regex.plain := by
  obtain ⟨tree, htree, hmeant⟩ := exists_of_bind_eq_ok hparsed
  obtain ⟨m, hm, hparsed⟩ := exists_of_bind_eq_ok hmeant
  obtain rfl := Except.ok.inj hparsed
  obtain ⟨m', hm', hsame⟩ := exists_meaning_withGreed hm swap swap
  have hread : read (o.withGreed swap) p.toList = .ok tree := htree
  refine ⟨_, (bind_eq_of_eq_ok hread _).trans (bind_eq_of_eq_ok hm' _), ?_⟩
  rw [Regex.plain_number, Regex.plain_number, hsame.regex]

end Pattern

end Multimatch
