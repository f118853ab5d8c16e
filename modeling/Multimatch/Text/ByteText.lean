/-!
The text that names a byte in a message: a printable byte stands for itself, a space between single
quotes, quotes and the backslash after a backslash, and what does not print is named by a letter or
by its two digits in base sixteen.
-/

namespace Multimatch.Text

def upperHexDigit (n : Nat) : Char :=
  if n < 10 then Char.ofNat (0x30 + n) else Char.ofNat (0x41 + (n - 10))

def byteText (b : UInt8) : String :=
  if b = 0x20 then "' '"
  else if b = 0x09 then "\\t"
  else if b = 0x0A then "\\n"
  else if b = 0x0D then "\\r"
  else if b = 0x22 then "\\\""
  else if b = 0x27 then "\\'"
  else if b = 0x5C then "\\\\"
  else if 0x20 < b && b < 0x7F then String.singleton (Char.ofNat b.toNat)
  else String.ofList ['\\', 'x', upperHexDigit (b.toNat / 16), upperHexDigit (b.toNat % 16)]

end Multimatch.Text
