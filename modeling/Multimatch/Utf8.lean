/-!
UTF-8 seen byte by byte: the encoding of a scalar value, what a first byte announces, and decoding
the character at either end of a run of bytes. Haystacks are arbitrary bytes, so decoding may fail.
-/

namespace Multimatch.Utf8

/-- Whether the byte continues a character that an earlier byte began. -/
def isContinuation (b : UInt8) : Bool := 0x80 ≤ b && b < 0xC0

def isScalar (c : Nat) : Bool := c < 0xD800 || (0xE000 ≤ c && c ≤ 0x10FFFF)

def encode (c : Nat) : List UInt8 :=
  let tail (k : Nat) : UInt8 := UInt8.ofNat (0x80 + c / Nat.pow 64 k % 64)
  if c < 0x80 then [UInt8.ofNat c]
  else if c < 0x800 then [UInt8.ofNat (0xC0 + c / 64), tail 0]
  else if c < 0x10000 then [UInt8.ofNat (0xE0 + c / Nat.pow 64 2), tail 1, tail 0]
  else [UInt8.ofNat (0xF0 + c / Nat.pow 64 3), tail 2, tail 1, tail 0]

/--
A character whose encoding is read in part: the bits so far, how many bytes are still due, and the
least value that needs an encoding this long.
-/
structure Partial where
  bits : Nat
  due : Nat
  least : Nat
  deriving DecidableEq, Repr, Hashable

namespace Partial

/-- What the first byte of an encoding of several bytes says. -/
def ofLead? (b : UInt8) : Option Partial :=
  if 0xC0 ≤ b && b < 0xE0 then some ⟨b.toNat - 0xC0, 1, 0x80⟩
  else if 0xE0 ≤ b && b < 0xF0 then some ⟨b.toNat - 0xE0, 2, 0x800⟩
  else if 0xF0 ≤ b && b < 0xF8 then some ⟨b.toNat - 0xF0, 3, 0x10000⟩
  else none

def push (p : Partial) (b : UInt8) : Partial :=
  ⟨64 * p.bits + (b.toNat - 0x80), p.due - 1, p.least⟩

/-- The least value an encoding that goes on from here can have. -/
def lo (p : Partial) : Nat := max (p.bits * Nat.pow 64 p.due) p.least

/-- The greatest value an encoding that goes on from here can have. -/
def hi (p : Partial) : Nat := min ((p.bits + 1) * Nat.pow 64 p.due - 1) 0x10FFFF

end Partial

/-- The value that was read, if no byte is due and it is a scalar value in its shortest encoding. -/
def Partial.finished? (p : Partial) : Option Nat :=
  if p.due = 0 && p.least ≤ p.bits && isScalar p.bits then some p.bits else none

/-- Reads the continuation bytes that are due; fails on any other byte and on a forbidden value. -/
def decodeRest (p : Partial) : List UInt8 → Option Nat
  | [] => p.finished?
  | b :: rest =>
    if p.due = 0 then p.finished?
    else if isContinuation b then decodeRest (p.push b) rest
    else none

/-- The character that the bytes begin with, if they begin with the encoding of one. -/
def decodeFirst? : List UInt8 → Option Nat
  | [] => none
  | b :: rest =>
    if b < 0x80 then some b.toNat
    else match Partial.ofLead? b with
      | some p => decodeRest p rest
      | none => none

/--
Goes back over at most `steps` continuation bytes, then decodes from where that ends. `seen` are
the bytes already passed, in reading order.
-/
def decodeBack (steps : Nat) (seen : List UInt8) : List UInt8 → Option Nat
  | [] => none
  | b :: behind =>
    match steps with
    | 0 => decodeFirst? (b :: seen)
    | n + 1 =>
      if isContinuation b && !behind.isEmpty then decodeBack n (b :: seen) behind
      else decodeFirst? (b :: seen)

/--
The character before a place, where `behind` holds the bytes before it, the nearest first: the one
that begins at the nearest byte, of the last four, that is no continuation byte. It counts even if
its encoding ends before the place.
-/
def decodeLast? (behind : List UInt8) : Option Nat := decodeBack 3 [] behind

/-- Whether a place lies between characters, going by the byte after it. -/
def isBoundary : List UInt8 → Bool
  | [] => true
  | b :: _ => !isContinuation b

end Multimatch.Utf8
