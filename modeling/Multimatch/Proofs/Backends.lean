import Multimatch.Engine.Automata
import Multimatch.Proofs.Contract
import Multimatch.Proofs.Preferences

/-!
# What backends promise

A backend reads patterns in a language and finds matches of them. Its promises are grouped by what
they are about, so that each result names those it rests on: which patterns are refused (`Reads`),
what the searches find (`Searches`), and what the limits of memory have to do with it (`Limits`).

Searches are told apart by whether it is settled which empty matches there are. An empty match
within a character is never told. That leaves no doubt if no pattern can match nothing, or if
options and haystack keep to UTF-8; in other bytes the searches promise little.
-/
namespace Multimatch

/-! ## Refusals -/

/-- The limit that was exceeded, where that is what is wrong. -/
def BuildError.limit? : BuildError → Option Nat
  | automaton (.tooLarge limit) | tableTooLarge limit | workTooLarge limit => some limit
  | pattern _ _ | automaton (.malformed _) | unicodeWordEdge | other _ => none

def BuildError.fault? : BuildError → Option Pattern.Fault
  | pattern _ fault | automaton (.malformed fault) => some fault
  | automaton (.tooLarge _) | unicodeWordEdge | tableTooLarge _ | workTooLarge _ | other _ => none

/-- A compilation failed, and not for a limit of size. -/
def Refused {α : Type} (compiled : Except BuildError α) : Prop :=
  ∃ e, compiled = .error e ∧ e.limit? = none

theorem not_refused_ok {α : Type} (a : α) : ¬ Refused (.ok a) := by
  rintro ⟨e, he, -⟩
  cases he

theorem refused_error_iff {α : Type} {e : BuildError} :
    Refused (.error e : Except BuildError α) ↔ e.limit? = none := by
  constructor
  · rintro ⟨e', he, hlimit⟩
    rw [Except.error.inj he]
    exact hlimit
  · intro hlimit
    exact ⟨e, rfl, hlimit⟩

/-! ## Languages -/

/-- An expression matches from one place of a haystack to another, and not within a character where
it matches nothing. -/
structure Regex.Occurs (r : Regex) (h : Haystack) (i j : Nat) : Prop where
  le_length : i ≤ h.length
  is_match : r.Matches h i j
  between : i = j → Utf8.isBoundary (h.drop i) = true

/-- What patterns say under some options, if they can be read, and which match of an expression is
preferred to the others that begin with it. -/
structure Language where
  read : Pattern.Options → String → Option Regex
  prefers : Regex → Haystack → Nat → Nat → Prop

namespace Language

variable {L : Language} {o : Pattern.Options} {p : String} {ps : List String} {h : Haystack}

def Occurs (L : Language) (o : Pattern.Options) (p : String) (h : Haystack) (i j : Nat) : Prop :=
  ∃ r, L.read o p = some r ∧ r.Occurs h i j

/-- No pattern can match nothing. -/
def Solid (L : Language) (o : Pattern.Options) (ps : List String) : Prop :=
  ∀ p ∈ ps, ∀ r, L.read o p = some r → r.nullable = false

/-- No pattern can match nothing, or options and haystack keep to UTF-8. -/
def Clear (L : Language) (o : Pattern.Options) (ps : List String) (h : Haystack) : Prop :=
  L.Solid o ps ∨ o.utf8 = true ∧ Utf8.Valid h

theorem Clear.of_mem (clear : L.Clear o ps h) (hp : p ∈ ps) : L.Clear o [p] h := by
  refine clear.imp_left fun solid q hq => ?_
  rw [List.mem_singleton.1 hq]
  exact solid p hp

/-- An occurrence of a pattern, the preferred one of those that begin first. -/
def First (L : Language) (o : Pattern.Options) (p : String) (h : Haystack) (span : Span) : Prop :=
  ∃ r, L.read o p = some r ∧ r.Occurs h span.start span.stop ∧
    L.prefers r h span.start span.stop ∧ ∀ i j, r.Occurs h i j → span.start ≤ i

/-- What a pattern says under some options has the matches in a haystack that it has under others,
and can match nothing if it can under those. -/
def SameMatches (L : Language) (o o' : Pattern.Options) (p : String) (h : Haystack) : Prop :=
  ∀ r r', L.read o p = some r → L.read o' p = some r' →
    r'.Matches h = r.Matches h ∧ r'.nullable = r.nullable

/-- At most one match is preferred of those that begin at a place. -/
structure Prefers (L : Language) : Prop where
  is_match : ∀ {r : Regex} {h : Haystack} {i j : Nat}, L.prefers r h i j → r.Matches h i j
  unique : ∀ {r : Regex} {h : Haystack} {i j k : Nat},
    L.prefers r h i j → L.prefers r h i k → j = k

/-- Options that ask for UTF-8 admit a byte by itself in patterns only if it is an ASCII one. -/
def TakesCharacters (L : Language) : Prop :=
  ∀ {o : Pattern.Options} {p : String} {r : Regex}, o.utf8 = true → L.read o p = some r →
    r.TakesCharacters

/-- Options that differ in greed alone make the same of a pattern, but for the greed of its
repetitions. -/
def SwapsGreed (L : Language) : Prop :=
  ∀ (o : Pattern.Options) (p : String) (swap : Bool),
    (L.read (o.withGreed swap) p).map Regex.plain = (L.read o p).map Regex.plain

/-- A pattern cannot be read, or has an edge of a Unicode word where none is admitted. -/
def Bars (L : Language) (o : Pattern.Options) (admits : Prop) (p : String) : Prop :=
  L.read o p = none ∨ ∃ r, L.read o p = some r ∧ r.hasUnicodeWord = true ∧ ¬ admits

end Language

/-! ## Automata that answer every search -/

namespace General

def Settings.withLimits (s : Settings) (limit? table? : Option Nat) : Settings :=
  { s with automatonLimit? := limit?, tableLimit? := table? }

namespace Backend

/-- Patterns that cannot be read are refused, whatever the settings, and nothing else is, but for
limits. The pattern that is named is one that cannot be read. -/
structure Reads (B : Backend) (L : Language) : Prop where
  refuses_one : ∀ (s : Settings) {o : Pattern.Options} {p : String},
    L.read o p = none → Refused (B.buildOne s o p)
  refuses_many : ∀ (s : Settings) {o : Pattern.Options} {ps : List String} {p : String},
    p ∈ ps → L.read o p = none → Refused (B.buildMany s o ps)
  fault_one : ∀ {s : Settings} {o : Pattern.Options} {p : String} {e : BuildError},
    B.buildOne s o p = .error e → e.limit? = none →
      L.read o p = none ∧ ∃ fault, e = .pattern 0 fault
  fault_many : ∀ {s : Settings} {o : Pattern.Options} {ps : List String} {e : BuildError},
    B.buildMany s o ps = .error e → e.limit? = none →
      ∃ i p fault, ps[i]? = some p ∧ L.read o p = none ∧ e = .pattern i fault

/-- The search for one pattern finds its first occurrence, and the search for several inserts those
that occur. The search for any of them may stop at the first end of a match that it sees. It is
thorough if no pattern can match nothing; where options and haystack keep to UTF-8, it goes by which
matches there are. -/
structure Searches (B : Backend) (L : Language) : Prop where
  find_match : ∀ {s : Settings} {o : Pattern.Options} {p : String} {one : B.One},
    s.matchKind = .leftmostFirst → s.captures ≠ .none → B.buildOne s o p = .ok one →
      ∀ {h : Haystack} {span : Span}, B.find one h = some span →
        ∃ r, L.read o p = some r ∧ span.start ≤ h.length ∧ r.Matches h span.start span.stop
  find_first : ∀ {s : Settings} {o : Pattern.Options} {p : String} {one : B.One},
    s.matchKind = .leftmostFirst → s.captures ≠ .none → B.buildOne s o p = .ok one →
      ∀ {h : Haystack} {span : Span}, L.Clear o [p] h → B.find one h = some span →
        L.First o p h span
  find_some : ∀ {s : Settings} {o : Pattern.Options} {p : String} {one : B.One},
    s.matchKind = .leftmostFirst → s.captures ≠ .none → B.buildOne s o p = .ok one →
      ∀ {h : Haystack} {i j : Nat}, L.Clear o [p] h → L.Occurs o p h i j →
        ∃ span, B.find one h = some span
  inserts : ∀ {s : Settings} {o : Pattern.Options} {ps : List String} {many : B.Many},
    B.buildMany s o ps = .ok many → ∀ (h : Haystack) (buffer : Candidates),
      ∃ is : List Nat, (∀ i ∈ is, i < ps.length) ∧ B.whichMatch many h buffer = buffer.insertAll is
  which_iff : ∀ {s : Settings} {o : Pattern.Options} {ps : List String} {many : B.Many},
    s.matchKind = .all → B.buildMany s o ps = .ok many →
      ∀ {h : Haystack} {n : Nat}, L.Clear o ps h → ps.length ≤ n → ∀ i,
        i ∈ (B.whichMatch many h (.new n)).toList ↔
          ∃ p, ps[i]? = some p ∧ ∃ b e, L.Occurs o p h b e
  isMatch_sound : ∀ {s : Settings} {o : Pattern.Options} {ps : List String} {many : B.Many},
    s.matchKind = .all → B.buildMany s o ps = .ok many →
      ∀ {h : Haystack}, L.Clear o ps h → B.isMatch many h = true →
        ∃ p ∈ ps, ∃ b e, L.Occurs o p h b e
  isMatch_thorough : ∀ {s : Settings} {o : Pattern.Options} {ps : List String} {many : B.Many},
    s.matchKind = .all → B.buildMany s o ps = .ok many → L.Solid o ps →
      ∀ {h : Haystack} {p : String} {b e : Nat}, p ∈ ps → L.Occurs o p h b e →
        B.isMatch many h = true
  isMatch_congr : ∀ {s : Settings} {o o' : Pattern.Options} {ps : List String}
    {many many' : B.Many}, s.matchKind = .all → B.buildMany s o ps = .ok many →
      B.buildMany s o' ps = .ok many' → o.utf8 = true → o'.utf8 = true → ∀ {h : Haystack},
        Utf8.Valid h → (∀ p ∈ ps, L.SameMatches o o' p h) → B.isMatch many' h = B.isMatch many h

/-- Automata need some memory, if they can be made at all. They are made if that is within the limit
of automata, and then the limits have no bearing on what they answer. -/
structure Limits (B : Backend) (unset : Nat) : Prop where
  one_within : ∀ (s : Settings) (o : Pattern.Options) (p : String), ∃ need? : Option Nat,
    ∀ limit? table?, (∃ one, B.buildOne (s.withLimits limit? table?) o p = .ok one) ↔
      ∃ need ∈ need?, need ≤ limit?.getD unset
  many_within : ∀ (s : Settings) (o : Pattern.Options) (ps : List String), ∃ need? : Option Nat,
    ∀ limit? table?, (∃ many, B.buildMany (s.withLimits limit? table?) o ps = .ok many) ↔
      ∃ need ∈ need?, need ≤ limit?.getD unset
  find_eq : ∀ {s : Settings} {limit? table? : Option Nat} {o : Pattern.Options} {p : String}
    {one one' : B.One}, B.buildOne s o p = .ok one →
      B.buildOne (s.withLimits limit? table?) o p = .ok one' →
        ∀ h : Haystack, B.find one' h = B.find one h
  isMatch_eq : ∀ {s : Settings} {limit? table? : Option Nat} {o : Pattern.Options}
    {ps : List String} {many many' : B.Many}, B.buildMany s o ps = .ok many →
      B.buildMany (s.withLimits limit? table?) o ps = .ok many' →
        ∀ h : Haystack, B.isMatch many' h = B.isMatch many h
  whichMatch_eq : ∀ {s : Settings} {limit? table? : Option Nat} {o : Pattern.Options}
    {ps : List String} {many many' : B.Many}, B.buildMany s o ps = .ok many →
      B.buildMany (s.withLimits limit? table?) o ps = .ok many' →
        ∀ (h : Haystack) (buffer : Candidates),
          B.whichMatch many' h buffer = B.whichMatch many h buffer

end Backend

end General

/-! ## Tables -/

namespace Dense.Backend

/-- Patterns that cannot be read are refused, and those with an edge of a Unicode word where the
settings do not admit them, of which the kind of matches is no part. Nothing else is refused, but
for limits. -/
structure Reads (B : Backend) (L : Language) (admitsEdges : B.Settings → Prop) : Prop where
  edges_kind : ∀ (kind : MatchKind) (s : B.Settings),
    admitsEdges (B.withMatchKind kind s) ↔ admitsEdges s
  refused_one : ∀ (s : B.Settings) (o : Pattern.Options) (p : String),
    Refused (B.buildOne s .none o p) ↔ L.Bars o (admitsEdges s) p
  refused_many : ∀ (s : B.Settings) (o : Pattern.Options) (ps : List String),
    Refused (B.buildMany s .none o ps) ↔ ∃ p ∈ ps, L.Bars o (admitsEdges s) p
  cause_one : ∀ {s : B.Settings} {o : Pattern.Options} {p : String} {e : BuildError},
    B.buildOne s .none o p = .error e → e.limit? = none →
      (∃ fault, e = .automaton (.malformed fault)) ∨ e = .unicodeWordEdge
  cause_many : ∀ {s : B.Settings} {o : Pattern.Options} {ps : List String} {e : BuildError},
    B.buildMany s .none o ps = .error e → e.limit? = none →
      (∃ fault, e = .automaton (.malformed fault)) ∨ e = .unicodeWordEdge

/-- Searches that do not fail find what automata find that answer every search. They may look only
where a sieve in the settings lets them, and are thorough if it lets every match through. -/
structure Searches (B : Backend) (L : Language) (sievesNone : B.Settings → Prop) : Prop where
  find_match : ∀ {s : B.Settings} {o : Pattern.Options} {p : String} {one : B.One},
    B.buildOne (B.withMatchKind .leftmostFirst s) .none o p = .ok one →
      ∀ {h : Haystack} {span : Span}, B.find one h = .ok (some span) →
        ∃ r, L.read o p = some r ∧ span.start ≤ h.length ∧ r.Matches h span.start span.stop
  inserts : ∀ {s : B.Settings} {o : Pattern.Options} {ps : List String} {many : B.Many},
    B.buildMany s .none o ps = .ok many → ∀ (h : Haystack) (buffer : Candidates),
      ∃ is : List Nat, (∀ i ∈ is, i < ps.length) ∧
        (B.whichMatch many h buffer).1 = buffer.insertAll is
  which_iff : ∀ {s : B.Settings} {o : Pattern.Options} {ps : List String} {many : B.Many},
    sievesNone s → B.buildMany (B.withMatchKind .all s) .none o ps = .ok many →
      ∀ {h : Haystack} {n : Nat} {found : Candidates}, L.Clear o ps h → ps.length ≤ n →
        B.whichMatch many h (.new n) = (found, .ok ()) → ∀ i,
          i ∈ found.toList ↔ ∃ p, ps[i]? = some p ∧ ∃ b e, L.Occurs o p h b e
  earliestEnd_sound : ∀ {s : B.Settings} {o : Pattern.Options} {ps : List String} {many : B.Many},
    B.buildMany (B.withMatchKind .all s) .none o ps = .ok many →
      ∀ {h : Haystack} {stop : Nat}, L.Clear o ps h → B.earliestEnd many h = .ok (some stop) →
        ∃ p ∈ ps, ∃ b e, L.Occurs o p h b e
  earliestEnd_thorough : ∀ {s : B.Settings} {o : Pattern.Options} {ps : List String}
    {many : B.Many}, sievesNone s → B.buildMany (B.withMatchKind .all s) .none o ps = .ok many →
      L.Solid o ps → ∀ {h : Haystack} {p : String} {b e : Nat}, p ∈ ps → L.Occurs o p h b e →
        B.earliestEnd many h ≠ .ok none

end Dense.Backend

/-! ## Engines -/

theorem General.onlyInserts {B : General.Backend} {L : Language} (searches : B.Searches L)
    (c : General.Config) : (General.engine B c).OnlyInserts := by
  intro ps ones many hc h
  exact searches.inserts hc.together h (.new ps.length)

theorem Dense.onlyInserts {B : Dense.Backend} {L : Language} {sievesNone : B.Settings → Prop}
    (searches : B.Searches L sievesNone) (c : Dense.Config B) :
    (Dense.engine B c).OnlyInserts := by
  intro ps ones many hc h
  exact searches.inserts hc.together h (.new ps.length)

end Multimatch
