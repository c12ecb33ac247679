import CodeSurvey.Decimal.Layout

set_option autoImplicit false

namespace CodeSurvey

/-- A number of seconds, whole or not. -/
inductive Seconds where
  | whole (n : Int)
  | real (x : Float)

namespace Seconds

def text : Seconds → String
  | .whole n => toString n
  | .real x => Decimal.text x

def exceededBy (limit : Seconds) (elapsed : Float) : Bool :=
  match limit with
  | .whole n => decide (Float.ofInt n < elapsed)
  | .real x => decide (x < elapsed)

end Seconds

/-- How much work an analysis may do before it stops with what it has. -/
structure Budget where
  maxFiles : Int := 5000
  maxWindows : Int := 2000
  maxComparisons : Int := 5000000
  maxDuplicates : Int := 500
  time : Seconds := .real 30

/-- The readings of a clock in seconds, by number. -/
abbrev Clock := Nat → Float

end CodeSurvey
