/-!
# Limits of numerals

A decimal numeral of more than 4300 digits is neither read nor written.
-/

namespace ModuleScript.Decimal

/-- The greatest number of digits of a numeral that is read or written. -/
def digitLimit : Nat := 4300

/-- A numeral beyond the limit. -/
inductive LengthFault where
  /-- It is to be read, and has this many digits. -/
  | read (digits : Nat)
  /-- It is to be written. -/
  | written
  deriving DecidableEq, Repr

/-- The wording of a refusal. -/
def LengthFault.message : LengthFault → String
  | .read digits => start ++ s!": value has {digits} digits" ++ advice
  | .written => start ++ advice
where
  /-- What every refusal starts with. -/
  start : String := s!"Exceeds the limit ({digitLimit} digits) for integer string conversion"
  /-- What every refusal ends with. -/
  advice : String := "; use sys.set_int_max_str_digits() to increase the limit"

/-- Whether the numeral of a number is within the limit. -/
def isWritable (n : Int) : Bool := n.natAbs < Nat.pow 10 digitLimit

end ModuleScript.Decimal
