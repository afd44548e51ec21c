import ModuleScript.Decimal.Binary64

/-!
# Arithmetic of binary floating-point numbers

Sums and products are rounded from their exact values. A sum of opposite numbers is the positive
zero; a product with an infinite factor is infinite unless the other factor is zero.
-/

namespace ModuleScript.Decimal.Binary64

/-- The number zero. -/
def zero : Binary64 := finite false 0 0

/-- The number with the other sign. -/
def negate : Binary64 → Binary64
  | nan => nan
  | infinite negative => infinite !negative
  | finite negative significand exponent => finite (!negative) significand exponent

/-- The number nearest to a whole number, unless it is too large. -/
def ofNat? (n : Nat) : Option Binary64 :=
  if n = 0 then some zero
  else match ofRatio false n 1 with
    | infinite _ => none
    | x => some x

/-- The number nearest to `±significand * 2 ^ exponent`. -/
def round (negative : Bool) (significand : Nat) (exponent : Int) : Binary64 :=
  if significand = 0 then finite negative 0 0
  else
    let (up, down) := powerRatio 2 exponent
    ofRatio negative (significand * up) down

/-- The product of two numbers. -/
def mul : Binary64 → Binary64 → Binary64
  | nan, _ | _, nan => nan
  | infinite a, infinite b => infinite (a != b)
  | infinite a, finite b s _ | finite b s _, infinite a => if s = 0 then nan else infinite (a != b)
  | finite a s e, finite b t f => round (a != b) (s * t) (e + f)

/-- The sum of two numbers. -/
def add : Binary64 → Binary64 → Binary64
  | nan, _ | _, nan => nan
  | infinite a, infinite b => if a == b then infinite a else nan
  | infinite a, finite _ _ _ | finite _ _ _, infinite a => infinite a
  | finite a s e, finite b t f =>
    let least := min e f
    let signed (negative : Bool) (significand : Nat) (exponent : Int) : Int :=
      let n : Int := significand * Nat.pow 2 (exponent - least).toNat
      if negative then -n else n
    let sum := signed a s e + signed b t f
    if sum = 0 then finite (a && b) 0 0 else round (sum < 0) sum.natAbs least

end ModuleScript.Decimal.Binary64
