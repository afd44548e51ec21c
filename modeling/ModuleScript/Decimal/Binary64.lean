/-!
# Binary floating-point numbers of 64 bits

A finite number is `significand * 2 ^ exponent` with at most 53 significant bits and an
exponent of at least -1074. A decimal is rounded to the nearest such number, a tie to the one
with an even significand, and to infinity beyond the largest.
-/

namespace ModuleScript.Decimal

/-- A number of the 64-bit binary format. -/
inductive Binary64 where
  | nan
  | infinite (negative : Bool)
  | finite (negative : Bool) (significand : Nat) (exponent : Int)
  deriving DecidableEq, Repr

namespace Binary64

/-- The quotient rounded to the nearest number, a tie to the even one. -/
def roundQuotient (numerator denominator : Nat) : Nat :=
  let quotient := numerator / denominator
  let twice := 2 * (numerator % denominator)
  if twice > denominator || (twice == denominator && quotient % 2 == 1) then quotient + 1
  else quotient

/-- Powers with either sign of the exponent, as numerator and denominator. -/
def powerRatio (base : Nat) (exponent : Int) : Nat × Nat :=
  if 0 ≤ exponent then (Nat.pow base exponent.toNat, 1)
  else (1, Nat.pow base (-exponent).toNat)

/-- The least exponent of two. -/
def leastExponent : Int := -1074

/-- The greatest exponent of two. -/
def greatestExponent : Int := 971

/-- The number nearest to a positive ratio. -/
def ofRatio (negative : Bool) (numerator denominator : Nat) : Binary64 :=
  let size : Int := (numerator.log2 : Int) - denominator.log2
  -- One of two neighbouring exponents gives a quotient of 53 bits.
  let scaled (q : Int) : Nat :=
    let (up, down) := powerRatio 2 q
    roundQuotient (numerator * down) (denominator * up)
  let wide := max (size - 53) leastExponent
  let exponent := if scaled wide < Nat.pow 2 53 then wide else max (size - 52) leastExponent
  let significand := scaled exponent
  -- Rounding up can reach the next power of two.
  let (significand, exponent) :=
    if significand == Nat.pow 2 53 then (Nat.pow 2 52, exponent + 1) else (significand, exponent)
  if exponent > greatestExponent then infinite negative else finite negative significand exponent

/-- The number nearest to `digits * 10 ^ exponent`. -/
def ofDecimal (negative : Bool) (digits : Nat) (exponent : Int) : Binary64 :=
  if digits = 0 then finite negative 0 0
  else
    let magnitude := (digits.log2 : Int) * 30103 / 100000 + exponent
    if magnitude > 400 then infinite negative
    else if magnitude < -400 then finite negative 0 0
    else
      let (up, down) := powerRatio 10 exponent
      ofRatio negative (digits * up) down

/-- Whether the number differs from zero; a number that is none does. -/
def isNonzero : Binary64 → Bool
  | finite _ significand _ => significand != 0
  | _ => true

end Binary64

end ModuleScript.Decimal
