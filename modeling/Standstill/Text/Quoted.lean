import Standstill.Text.Hidden

/-!
# Quoted texts

A text between double quotes, on one line: the quote, the backslash, tab,
newline, carriage return and NUL have short escapes, and a hidden character
is shown by its code point in braces.
-/
namespace Standstill

/-- The lower-case hexadecimal numeral of `n`. -/
def hexNumeral (n : Nat) : String := String.ofList (Nat.toDigits 16 n)

/-- One character inside quotes. -/
def quotedChar (c : Char) : String :=
  if c = '\\' then "\\\\"
  else if c = '"' then "\\\""
  else if c = '\n' then "\\n"
  else if c = '\t' then "\\t"
  else if c = '\r' then "\\r"
  else if c = '\x00' then "\\0"
  else if c.toNat < 0x7F ∧ 0x20 ≤ c.toNat then c.toString
  else if isHidden c then "\\u\x7b" ++ hexNumeral c.toNat ++ "\x7d"
  else c.toString

/-- A text between quotes. -/
def quoted (s : String) : String :=
  "\"" ++ String.join (s.toList.map quotedChar) ++ "\""

end Standstill
