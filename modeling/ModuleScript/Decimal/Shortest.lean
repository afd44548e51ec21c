import ModuleScript.Decimal.Binary64

/-!
# Shortest decimals

The text of a number is the decimal with the fewest digits that reads back as the number, and
of those the nearest to it. It is positional for exponents from -4 to 15 and scientific beyond.
-/

namespace ModuleScript.Decimal

/-- The decimal digits of a number. -/
def digitsOf (n : Nat) : List Char := (toString n).toList

/-- A decimal: its digits as a number, and the power of ten of the last one. -/
structure Scientific where
  digits : Nat
  exponent : Int

/-- The neighbours of a positive ratio among the decimals whose last place is `10 ^ exponent`,
the nearer one first. -/
def neighbours (numerator denominator : Nat) (exponent : Int) : List Scientific :=
  let (up, down) := Binary64.powerRatio 10 exponent
  let n := numerator * down
  let d := denominator * up
  let below : Scientific := ⟨n / d, exponent⟩
  let above : Scientific := ⟨n / d + 1, exponent⟩
  if 2 * (n % d) > d || (2 * (n % d) == d && n / d % 2 == 1) then [above, below]
  else [below, above]

/-- The power of ten of the leading digit of a positive ratio. -/
def leadingPower (numerator denominator : Nat) : Int :=
  let guess : Int := ((numerator.log2 : Int) - denominator.log2) * 30103 / 100000 - 1
  let reaches (p : Int) : Bool :=
    let (up, down) := Binary64.powerRatio 10 p
    denominator * up ≤ numerator * down
  if reaches (guess + 2) then guess + 2 else if reaches (guess + 1) then guess + 1 else guess

/-- The shortest decimal that reads back as a positive number. -/
def shortest? (significand : Nat) (exponent : Int) : Option Scientific :=
  let (up, down) := Binary64.powerRatio 2 exponent
  let numerator := significand * up
  let lead := leadingPower numerator down
  let target := Binary64.ofRatio false numerator down
  (List.range 17).findSome? fun (places : Nat) ↦
    (neighbours numerator down (lead - places)).find? fun s ↦
      s.digits != 0 && Binary64.ofDecimal false s.digits s.exponent == target

/-- Digits with the zeros at their end moved into the exponent. -/
def Scientific.strip (s : Scientific) : Nat → Scientific
  | 0 => s
  | fuel + 1 =>
    if s.digits % 10 == 0 && s.digits != 0 then
      Scientific.strip ⟨s.digits / 10, s.exponent + 1⟩ fuel
    else s

/-- The text of a positive decimal. -/
def Scientific.text (s : Scientific) : String :=
  let s := s.strip 400
  let digits := digitsOf s.digits
  let point : Int := digits.length + s.exponent
  let chars :=
    if -4 < point && point ≤ 16 then
      if point ≤ 0 then '0' :: '.' :: (List.replicate (-point).toNat '0' ++ digits)
      else if digits.length ≤ point.toNat then
        digits ++ List.replicate (point.toNat - digits.length) '0' ++ ['.', '0']
      else digits.take point.toNat ++ '.' :: digits.drop point.toNat
    else
      let power := point - 1
      let mantissa := match digits with
        | d :: e :: rest => d :: '.' :: e :: rest
        | digits => digits
      let powerDigits := digitsOf power.natAbs
      mantissa ++ 'e' :: (if power < 0 then '-' else '+') ::
        (List.replicate (2 - powerDigits.length) '0' ++ powerDigits)
  String.ofList chars

/-- The text of a number. -/
def Binary64.text : Binary64 → String
  | nan => "nan"
  | infinite negative => if negative then "-inf" else "inf"
  | finite negative significand exponent =>
    let body := if significand = 0 then "0.0"
      else (shortest? significand exponent).elim "" Scientific.text
    if negative then "-" ++ body else body

end ModuleScript.Decimal
