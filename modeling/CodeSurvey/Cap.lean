set_option autoImplicit false

namespace CodeSurvey

/-- Where an index lies in a list of a given length; a negative one counts from the end. -/
def endIndex (length : Nat) (stop : Int) : Nat :=
  if 0 ≤ stop then stop.toNat else length - stop.natAbs

/-- The first `limit` items; for a negative limit all but the last `-limit`. -/
def capped {α : Type} (limit : Int) (items : List α) : List α :=
  items.take (endIndex items.length limit)

def slice {α : Type} (items : List α) (start : Nat) (stop : Int) : List α :=
  (capped stop items).drop start

end CodeSurvey
