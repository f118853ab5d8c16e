import Multimatch.Unicode.Derived

/-!
Quoted texts. Between double quotes, a quote and a backslash stand after a backslash, the common
controls are named by a letter, and every other character that does not show by itself is given by
its number in base sixteen, so that equal quoted texts quote equal texts.
-/

namespace Multimatch.Text

def lowerHex (n : Nat) : List Char := Nat.toDigits 16 n

/-- Whether a character shows by itself, not as a mark on the one before it. -/
def showsAlone (c : Char) : Bool :=
  Unicode.printable.contains c.toNat && !Unicode.graphemeExtend.contains c.toNat

/-- A character by its number. -/
def numbered (c : Char) : List Char := ['\\', 'u', '\x7b'] ++ lowerHex c.toNat ++ ['\x7d']

/-- A character within a quoted text. -/
def quotedChar (c : Char) : List Char :=
  match c with
  | '"' => ['\\', '"']
  | '\\' => ['\\', '\\']
  | '\n' => ['\\', 'n']
  | '\r' => ['\\', 'r']
  | '\t' => ['\\', 't']
  | '\x00' => ['\\', '0']
  | c =>
    if 0x20 ≤ c.toNat && c.toNat < 0x7F then [c]
    else if showsAlone c then [c]
    else numbered c

def quoted (s : String) : List Char := '"' :: (s.toList.flatMap quotedChar ++ ['"'])

end Multimatch.Text
