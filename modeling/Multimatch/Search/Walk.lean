import Multimatch.Search.Thread
import Multimatch.Haystack.Span
import Multimatch.Engine.Candidates

/-!
Walks over a haystack, byte by byte from left to right. A walk sees a match that ends at a place
only after it has taken the byte that follows, or at the end of the haystack. Before it takes a byte
it stops without an answer if that is one of the quit bytes, and it stops with its answer once no
thread is left; a match just seen keeps it going for one more byte.

A walk that searches for matches at any offset begins a new thread at each place. It does not need
to if every match of the expressions starts at the start of the text.
-/

namespace Multimatch.Search

structure Quit where
  byte : UInt8
  offset : Nat
  deriving DecidableEq, Repr

/-- The threads at a place, a new one last if the walk still begins threads. -/
def joined (r : Regex) (searching : Bool) (offset : Nat) (threads : List Thread) : List Thread :=
  if searching then threads ++ [Thread.begin r offset] else threads

/-! ## One expression: the preferred match -/

/--
The end of the preferred match among those that begin first, walking on from a place. Once a thread
has matched, threads after it in the order of preference are dropped, and no new ones begin; `last`
is the end found so far, and `going` says that it was found at the place before.
-/
def preferredEnd (quits : IntervalSet) (r : Regex) (searching going : Bool) (threads : List Thread)
    (last : Option Nat) (behind : List UInt8) (offset : Nat) :
    List UInt8 → Except Quit (Option Nat)
  | [] =>
    let settled := settle behind [] (joined r searching offset threads)
    .ok (if settled.any Thread.matched then some offset else last)
  | b :: ahead =>
    if threads.isEmpty && !searching && !going then .ok last
    else if quits.contains b.toNat then .error ⟨b, offset⟩
    else
      let settled := settle behind (b :: ahead) (joined r searching offset threads)
      let found := settled.any Thread.matched
      let kept := settled.takeWhile (!·.matched)
      preferredEnd quits r (searching && !found) found (kept.filterMap (Thread.feed? b))
        (if found then some offset else last) (b :: behind) (offset + 1) ahead

/-- The end of the preferred match that begins at a place or after it. -/
def endFrom (quits : IntervalSet) (r : Regex) (behind : List UInt8) (offset : Nat)
    (ahead : List UInt8) : Except Quit (Option Nat) :=
  preferredEnd quits r (!r.anchored) true (if r.anchored then [Thread.begin r offset] else [])
    none behind offset ahead

/--
Searches from one place after another until the match found does not end within the encoding of a
character. Only expressions that can match the empty text need that.
-/
def untilBoundary (seek : List UInt8 → Nat → List UInt8 → Except Quit (Option Nat))
    (behind : List UInt8) (offset : Nat) (ahead : List UInt8) : Except Quit (Option Nat) :=
  match seek behind offset ahead with
  | .ok (some stop) =>
    if Utf8.isBoundary (ahead.drop (stop - offset)) then .ok (some stop)
    else match ahead with
      | [] => .ok none
      | b :: rest => untilBoundary seek (b :: behind) (offset + 1) rest
  | other => other

/-- The least offset at which a match begins that ends `n` bytes after a place. -/
def earliestStart (r : Regex) (searching : Bool) (threads : List Thread) (behind : List UInt8)
    (offset : Nat) : Nat → List UInt8 → Option Nat
  | 0, ahead =>
    let settled := settle behind ahead (joined r searching offset threads)
    (settled.find? Thread.matched).map Thread.start
  | _ + 1, [] => none
  | n + 1, b :: ahead =>
    let settled := settle behind (b :: ahead) (joined r searching offset threads)
    earliestStart r searching (settled.filterMap (Thread.feed? b)) (b :: behind) (offset + 1) n
      ahead

/-- The span of the preferred match: its end is found first, then where it begins. -/
def find (quits : IntervalSet) (r : Regex) (h : Haystack) : Except Quit (Option Span) :=
  let stop :=
    if r.nullable then untilBoundary (endFrom quits r) [] 0 h else endFrom quits r [] 0 h
  match stop with
  | .error q => .error q
  | .ok none => .ok none
  | .ok (some stop) =>
    .ok <| (earliestStart r (!r.anchored) (if r.anchored then [Thread.begin r 0] else []) [] 0
      stop h).map (⟨·, stop⟩)

/-! ## Several expressions: all matches -/

def allAnchored (rs : List Regex) : Bool := rs.all Regex.anchored

def fieldsAt (rs : List Regex) (offset : Nat) : List (List Thread) :=
  rs.map fun r => if allAnchored rs then [Thread.begin r offset] else []

def settleFields (rs : List Regex) (behind : List UInt8) (offset : Nat)
    (fields : List (List Thread)) (ahead : List UInt8) : List (List Thread) :=
  List.zipWith (fun r threads => settle behind ahead (joined r (!allAnchored rs) offset threads))
    rs fields

def feedFields (b : UInt8) (settled : List (List Thread)) : List (List Thread) :=
  settled.map (List.filterMap (Thread.feed? b))

def matchedFields (settled : List (List Thread)) : List Bool :=
  settled.map (List.any · Thread.matched)

def exhausted (rs : List Regex) (going : Bool) (fields : List (List Thread)) : Bool :=
  fields.all List.isEmpty && allAnchored rs && !going

/-- The least end of a match of any expression, walking on from a place. -/
def firstEnd (quits : IntervalSet) (rs : List Regex) (going : Bool) (fields : List (List Thread))
    (behind : List UInt8) (offset : Nat) : List UInt8 → Except Quit (Option Nat)
  | [] =>
    .ok (if (matchedFields (settleFields rs behind offset fields [])).contains true then some offset
      else none)
  | b :: ahead =>
    if exhausted rs going fields then .ok none
    else if quits.contains b.toNat then .error ⟨b, offset⟩
    else
      let settled := settleFields rs behind offset fields (b :: ahead)
      if (matchedFields settled).contains true then .ok (some offset)
      else firstEnd quits rs false (feedFields b settled) (b :: behind) (offset + 1) ahead

def anyNullable (rs : List Regex) : Bool := rs.any Regex.nullable

/-- Where the match of any expression ends that is seen first. -/
def earliestEnd (quits : IntervalSet) (rs : List Regex) (h : Haystack) : Except Quit (Option Nat) :=
  let seek (behind : List UInt8) (offset : Nat) (ahead : List UInt8) :=
    firstEnd quits rs true (fieldsAt rs offset) behind offset ahead
  if anyNullable rs then untilBoundary seek [] 0 h else seek [] 0 h

def isMatch (quits : IntervalSet) (rs : List Regex) (h : Haystack) : Except Quit Bool :=
  (earliestEnd quits rs h).map Option.isSome

/--
Puts the indices of the expressions that match into a buffer, walking on from a place until the
buffer is full. Where some expression can match the empty text, no match counts that ends within the
encoding of a character.
-/
def collect (quits : IntervalSet) (rs : List Regex) (going : Bool) (fields : List (List Thread))
    (c : Candidates) (behind : List UInt8) (offset : Nat) :
    List UInt8 → Candidates × Except Quit Unit
  | [] =>
    let marks := matchedFields (settleFields rs behind offset fields [])
    (c.insertAll (Candidates.markedFrom 0 marks), .ok ())
  | b :: ahead =>
    if exhausted rs going fields then (c, .ok ())
    else if quits.contains b.toNat then (c, .error ⟨b, offset⟩)
    else
      let settled := settleFields rs behind offset fields (b :: ahead)
      let marks := matchedFields settled
      let found := marks.contains true
      let counts := found && !(anyNullable rs && Utf8.isContinuation b)
      let c := if counts then c.insertAll (Candidates.markedFrom 0 marks) else c
      if counts && c.isFull then (c, .ok ())
      else collect quits rs found (feedFields b settled) c (b :: behind) (offset + 1) ahead

/-- Puts the indices of the expressions that match anywhere into a buffer. -/
def whichMatch (quits : IntervalSet) (rs : List Regex) (h : Haystack) (c : Candidates) :
    Candidates × Except Quit Unit :=
  collect quits rs true (fieldsAt rs 0) c [] 0 h

end Multimatch.Search
