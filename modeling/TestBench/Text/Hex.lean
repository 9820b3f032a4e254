/-!
Hexadecimal digits of a fixed count.
-/
namespace TestBench.Text
set_option autoImplicit false

/-- One digit; `ten` is the letter for ten. -/
def hexDigit (ten : Char) (value : Nat) : Char :=
  if value < 10 then Char.ofNat ('0'.toNat + value) else Char.ofNat (ten.toNat + (value - 10))

/-- The lowest `count` hexadecimal digits of a number, the highest first. -/
def hexDigits (ten : Char) : Nat → Nat → List Char
  | 0, _ => []
  | count + 1, value => hexDigits ten count (value / 16) ++ [hexDigit ten (value % 16)]

def hexValue? (c : Char) : Option Nat :=
  if '0' ≤ c ∧ c ≤ '9' then some (c.toNat - '0'.toNat)
  else if 'a' ≤ c ∧ c ≤ 'f' then some (c.toNat - 'a'.toNat + 10)
  else if 'A' ≤ c ∧ c ≤ 'F' then some (c.toNat - 'A'.toNat + 10)
  else none

/-- A code point above U+FFFF as two surrogates, any other as itself. -/
def utf16Units (c : Char) : List Nat :=
  let code := c.toNat
  if code < 0x10000 then [code]
  else [0xD800 + (code - 0x10000) / 0x400, 0xDC00 + (code - 0x10000) % 0x400]

end TestBench.Text
