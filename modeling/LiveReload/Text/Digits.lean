/-
**Numbers from digits.**

The digits of bases up to sixteen, what they write, and the characters that they stand for.
-/
namespace LiveReload

/-- The value of a hexadecimal digit. -/
def hexValue? (c : Char) : Option Nat :=
  if c.isDigit then some (c.toNat - 48)
  else if 'a' ≤ c && c ≤ 'f' then some (c.toNat - 87)
  else if 'A' ≤ c && c ≤ 'F' then some (c.toNat - 55)
  else none

/-- The number that digits of a base write. -/
def digitsValue (base : Nat) (digits : List Nat) : Nat :=
  digits.foldl (fun value digit => value * base + digit) 0

/-- The character of a code point in hexadecimal. -/
def codePoint? (digits : List Char) : Option Char :=
  match digits.mapM hexValue? with
  | none => none
  | some digits =>
    let value := digitsValue 16 digits
    if value.isValidChar then some (Char.ofNat value) else none

end LiveReload
