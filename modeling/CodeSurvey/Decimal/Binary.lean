set_option autoImplicit false

namespace CodeSurvey.Decimal

/-- What a double stands for. A finite one is `± units · 2 ^ scale`. -/
inductive Reading where
  | finite (negative : Bool) (units : Nat) (scale : Int)
  | infinite (negative : Bool)
  | notANumber

def read (x : Float) : Reading :=
  let bits : Nat := x.toBits.toNat
  let negative := decide (bits / Nat.pow 2 63 = 1)
  let exponent : Nat := bits / Nat.pow 2 52 % Nat.pow 2 11
  let fraction : Nat := bits % Nat.pow 2 52
  if exponent = Nat.pow 2 11 - 1 then
    if fraction = 0 then .infinite negative else .notANumber
  else if exponent = 0 then .finite negative fraction (-1074)
  else .finite negative (Nat.pow 2 52 + fraction) ((exponent : Int) - 1075)

/-- A quotient rounded to the nearest whole number; a half goes to the even neighbour. -/
def roundQuotient (num den : Nat) : Nat :=
  let whole := num / den
  let twice := 2 * (num % den)
  if twice < den then whole
  else if den < twice then whole + 1
  else if whole % 2 = 0 then whole
  else whole + 1

/-- `units · 2 ^ scale` as a fraction. -/
def fraction (units : Nat) (scale : Int) : Nat × Nat :=
  if 0 ≤ scale then (units * Nat.pow 2 scale.toNat, 1) else (units, Nat.pow 2 (-scale).toNat)

end CodeSurvey.Decimal
