import CodeSurvey.Decimal.Layout
import CodeSurvey.Value.Basic

set_option autoImplicit false

namespace CodeSurvey.Clone

/-- How shares are computed and compared with thresholds: as doubles where the search runs, as exact
fractions where it is reasoned about. -/
structure Measure (σ τ : Type) where
  /-- The share of two texts without characters. -/
  whole : σ
  share : Nat → Nat → σ
  above : σ → τ → Bool
  /-- Whether a length, shared by a longer one, is at most a threshold. -/
  tooShort : τ → Nat → Nat → Bool

def Measure.double : Measure Float Float where
  whole := 1
  share := fun matched total => Float.ofNat matched / Float.ofNat total
  above := fun score threshold => decide (threshold < score)
  tooShort := fun threshold short long => decide (Float.ofNat short ≤ threshold * Float.ofNat long)

def Measure.exact : Measure Rat Rat where
  whole := 1
  share := fun matched total => (matched : Rat) / (total : Rat)
  above := fun score threshold => decide (threshold < score)
  tooShort := fun threshold short long => decide ((short : Rat) ≤ threshold * (long : Rat))

/-- How shares are shown in reports. -/
structure Scale (σ : Type) where
  /-- The share in percent, without a fraction. -/
  percent : σ → String
  /-- Whether a share lies between none and all. -/
  inRange : σ → Bool
  value : σ → Value

def Scale.double : Scale Float where
  percent := fun score => Decimal.wholeText (score * 100)
  inRange := fun score => decide (0 ≤ score) && decide (score ≤ 1)
  value := .float

def agreeing (a b : List Char) : Nat :=
  (a.zip b).countP fun (x, y) => x == y

/-- The share of places with equal characters, of the length of the longer text. -/
def similarity {σ τ : Type} (m : Measure σ τ) (a b : List Char) : σ :=
  let longer := max a.length b.length
  if longer = 0 then m.whole else m.share (agreeing a b) longer

end CodeSurvey.Clone
