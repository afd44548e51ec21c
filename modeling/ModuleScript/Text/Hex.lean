/-!
# Hexadecimal numerals

Lower-case hexadecimal numerals of a fixed width, and the value of a hexadecimal digit.
-/

namespace ModuleScript.Text

/-- The digit for a value below sixteen. -/
def hexDigit (n : Nat) : Char := (['0', '1', '2', '3', '4', '5', '6', '7', '8', '9',
  'a', 'b', 'c', 'd', 'e', 'f'][n % 16]?).getD '0'

/-- The `width` lowest digits of a number, highest digit first. -/
def hexDigits (width n : Nat) : List Char :=
  (List.range width).reverse.map fun place ↦ hexDigit (n / Nat.pow 16 place)

/-- The value of a digit of either case. -/
def hexValue? (c : Char) : Option Nat :=
  if '0' ≤ c && c ≤ '9' then some (c.toNat - 48)
  else if 'a' ≤ c && c ≤ 'f' then some (c.toNat - 87)
  else if 'A' ≤ c && c ≤ 'F' then some (c.toNat - 55)
  else none

/-- The number that a run of digits denotes, if they all are hexadecimal digits. -/
def hexNumber? (digits : List Char) : Option Nat :=
  digits.foldlM (fun n c ↦ (hexValue? c).map (n * 16 + ·)) 0

end ModuleScript.Text
