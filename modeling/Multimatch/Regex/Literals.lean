import Multimatch.Regex.Basic

/-!
When an expression is no more than a choice between a few texts. Such an expression can be searched
for without an automaton. `Regex.isLiteralChoice` decides it by spelling out the texts within bounds
on their number and length; beyond the bounds only beginnings of texts are kept, and the choice is
no longer exact.
-/

namespace Multimatch

/-- A text that a match begins with; if `exact`, it is all of the match. -/
structure Beginning where
  bytes : List UInt8
  exact : Bool
  deriving DecidableEq, Repr

/-- The texts that matches can begin with, in order of preference; none if they are too many. -/
abbrev Beginnings := Option (List Beginning)

namespace Beginning

def nil : Beginning := ⟨[], true⟩

def keep (n : Nat) (b : Beginning) : Beginning :=
  if b.bytes.length ≤ n then b else ⟨b.bytes.take n, false⟩

/-- Drops repetitions of a text from a list; of neighbours that differ in exactness neither is. -/
def dedup : List Beginning → List Beginning
  | a :: b :: rest =>
    if a.bytes = b.bytes then dedup (⟨a.bytes, a.exact && b.exact⟩ :: rest)
    else a :: dedup (b :: rest)
  | [a] => [a]
  | [] => []
termination_by l => l.length

/-- Drops the texts that begin with a text before them, which is preferred to them. -/
def preferred (kept : List Beginning) : List Beginning → List Beginning
  | [] => kept.reverse
  | b :: rest =>
    if kept.any (·.bytes.isPrefixOf b.bytes) then preferred kept rest
    else preferred (b :: kept) rest

end Beginning

namespace Beginnings

/-- The greatest number of members of a set that is spelled out. -/
def maxClass : Nat := 10

/-- The greatest number of rounds of a repetition that are spelled out. -/
def maxRounds : Nat := 10

def maxLength : Nat := 100

def maxTexts : Nat := 250

/-- Whether nothing that follows can make the texts longer. -/
def isFinal (s : Beginnings) : Bool := s.all (·.all (!·.exact))

def inexact (s : Beginnings) : Beginnings := s.map (·.map ({ · with exact := false }))

def cross (s t : Beginnings) : Beginnings :=
  let t := match s, t with
    | some xs, some ys => if xs.length * ys.length > maxTexts then none else t
    | _, _ => t
  match s, t with
  | none, _ => none
  | some xs, none => if xs.any (·.bytes.isEmpty) then none else inexact (some xs)
  | some xs, some ys =>
    some <| (Beginning.dedup <| xs.flatMap fun x =>
      if x.exact then ys.map fun y => ⟨x.bytes ++ y.bytes, y.exact⟩ else [x]).map (·.keep maxLength)

/-- Texts of either choice, the first one preferred. -/
def union (s t : Beginnings) : Beginnings :=
  match s, t with
  | some xs, some ys =>
    if xs.length + ys.length ≤ maxTexts then some (Beginning.dedup (xs ++ ys))
    else
      let xs := Beginning.dedup (xs.map (·.keep 4))
      let ys := Beginning.dedup (ys.map (·.keep 4))
      if xs.length + ys.length ≤ maxTexts then some (Beginning.dedup (xs ++ ys)) else none
  | _, _ => none

def power (s : Beginnings) : Nat → Beginnings → Beginnings
  | 0, done => done
  | n + 1, done => if isFinal done then done else power s n (cross done s)

end Beginnings

namespace Regex

open Beginnings

/-- The set of characters that a choice between characters comes to. -/
def charChoice? : Regex → Option IntervalSet
  | char s => some s
  | alt _ x y => do some ((← x.charChoice?).union (← y.charChoice?))
  | _ => none

def spelled (s : IntervalSet) (encode : Nat → List UInt8) : Beginnings :=
  if s.size > maxClass then none
  else some <| s.intervals.flatMap fun i =>
    (List.range i.size).map fun n => ⟨encode (i.lo + n), true⟩

mutual

def beginnings : Regex → Beginnings
  | empty | look _ => some [.nil]
  | char s => spelled s Utf8.encode
  | byte s => spelled s fun n => [UInt8.ofNat n]
  | cat _ x y => y.appendTo (x.appendTo (some [.nil]))
  | alt n x y =>
    match (alt n x y).charChoice? with
    | some s => spelled s Utf8.encode
    | none => y.addTo x.beginnings
  | rep _ 0 max greedy x =>
    let again := if max = some 1 then x.beginnings else inexact x.beginnings
    if greedy then Beginnings.union again (some [.nil])
    else Beginnings.union (some [.nil]) again
  | rep _ (min + 1) max _ x =>
    let rounds := power x.beginnings (Nat.min (min + 1) maxRounds) (some [.nil])
    if max = some (min + 1) && min + 1 ≤ maxRounds then rounds else inexact rounds

def appendTo (done : Beginnings) : Regex → Beginnings
  | cat _ x y => y.appendTo (x.appendTo done)
  | r => if isFinal done then done else cross done r.beginnings

def addTo (done : Beginnings) : Regex → Beginnings
  | alt _ x y => y.addTo (x.addTo done)
  | r => Beginnings.union done r.beginnings

end

/-- The bytes that occur so often that looking for one of them alone is no use. -/
def isFrequent (b : UInt8) : Bool :=
  let sets : List Interval := [⟨0x0A, 0x0A⟩, ⟨0x0D, 0x0D⟩, ⟨0x20, 0x20⟩, ⟨0x28, 0x29⟩,
    ⟨0x2C, 0x32⟩, ⟨0x39, 0x3A⟩, ⟨0x5F, 0x5F⟩, ⟨0x61, 0x69⟩, ⟨0x6C, 0x70⟩, ⟨0x72, 0x76⟩,
    ⟨0x78, 0x79⟩, ⟨0x7C, 0x7C⟩, ⟨0x80, 0x84⟩, ⟨0x90, 0x90⟩, ⟨0xB1, 0xB1⟩, ⟨0xB5, 0xB7⟩,
    ⟨0xB9, 0xBD⟩, ⟨0xBF, 0xFF⟩]
  sets.any (·.contains b.toNat)

def sharedBytes : List (List UInt8) → List UInt8
  | [] => []
  | t :: rest => rest.foldl shared t
where
  /-- The beginning that two texts share. -/
  shared : List UInt8 → List UInt8 → List UInt8
    | a :: as, b :: bs => if a = b then a :: shared as bs else []
    | _, _ => []

/-- The lengths that many texts are cut to, each with the number of texts from which on they are. -/
def cuts : List (Nat × Nat) := [(5, 10), (4, 10), (3, 64), (2, 64), (1, 10)]

def shorten (texts : List Beginning) : List Beginning :=
  cuts.foldl (fun (texts, stopped) (length, many) =>
    if stopped || texts.length ≤ many then (texts, true)
    else (Beginning.preferred [] (texts.map (·.keep length)), false)) (texts, false) |>.1

/--
Whether looking for texts is best done for the texts as they are. It is not where a shared beginning
is looked for instead: a short one that starts with a rare byte, or a long one; nor where beginnings
of many texts that are still of some length and fewer stand for them.
-/
def keepsTexts (texts : List Beginning) : Bool :=
  let distinct := Beginning.preferred [] texts
  let shared := sharedBytes (distinct.map Beginning.bytes)
  let longest := (distinct.map (·.bytes.length)).foldl Nat.max 0
  if texts.length > 1 && 1 ≤ shared.length && shared.length ≤ 3 &&
      !(shared.head?.any isFrequent) then longest ≤ 1
  else if shared.length > 4 || (shared.length > 1 && distinct.length > 16) then
    longest ≤ shared.length
  else
    let short := shorten distinct
    let least := (short.map (·.bytes.length)).foldl Nat.min 5
    least ≤ 2 || short.length > 64 || short.all Beginning.exact

/--
Whether the expression is a choice between a few texts that are not empty, which can be looked for
as they are. Assertions and groups that capture rule that out, and so does an anchor at the start.
-/
def isLiteralChoice (captures : Nat) (r : Regex) : Bool :=
  captures = 0 && !r.anyLook (fun _ => true) &&
    match r.beginnings with
    | none => false
    | some texts =>
      texts.all (fun t => t.exact && !t.bytes.isEmpty) && !texts.isEmpty && keepsTexts texts

end Regex

end Multimatch
