import CodeSurvey.Decimal.Shortest

set_option autoImplicit false

namespace CodeSurvey.Decimal

def zeros (count : Nat) : String :=
  String.ofList (List.replicate count '0')

/-- Digits with the decimal point after the first `point` of them. -/
def positional (digits : String) (point : Int) : String :=
  let count : Int := digits.length
  if point ≤ 0 then "0." ++ zeros (-point).toNat ++ digits
  else if count ≤ point then digits ++ zeros (point - count).toNat ++ ".0"
  else
    String.ofList (digits.toList.take point.toNat) ++ "." ++
      String.ofList (digits.toList.drop point.toNat)

/-- Digits with a point after the first and an exponent. -/
def scientific (digits : String) (exponent : Int) : String :=
  let tail := String.ofList (digits.toList.drop 1)
  let size := toString exponent.natAbs
  String.ofList (digits.toList.take 1) ++ (if tail.isEmpty then "" else "." ++ tail) ++ "e" ++
    (if exponent < 0 then "-" else "+") ++ (if size.length < 2 then "0" ++ size else size)

/-- Positional for exponents from -4 to 15, and with an exponent of at least two digits
otherwise. -/
def magnitudeText (digits : Nat) (power : Int) : String :=
  let text := toString digits
  let point := power + text.length
  if -4 < point ∧ point ≤ 16 then positional text point else scientific text (point - 1)

def signText (negative : Bool) : String :=
  if negative then "-" else ""

/-- The text of a double by its shortest digits. A positional text always has a point. -/
def text (x : Float) : String :=
  match read x with
  | .notANumber => "nan"
  | .infinite negative => signText negative ++ "inf"
  | .finite negative units scale =>
    if units = 0 then signText negative ++ "0.0"
    else
      let (digits, power) := shortest units scale
      signText negative ++ magnitudeText digits power

/-- The text of a double rounded to a whole number; a half goes to the even neighbour. -/
def wholeText (x : Float) : String :=
  match read x with
  | .notANumber => "nan"
  | .infinite negative => signText negative ++ "inf"
  | .finite negative units scale =>
    let (num, den) := fraction units scale
    signText negative ++ toString (roundQuotient num den)

end CodeSurvey.Decimal
