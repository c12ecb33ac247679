import CodeSurvey.Text.Hex

set_option autoImplicit false

namespace CodeSurvey.Yaml

open Text

namespace Date

def isLeapYear (year : Nat) : Bool :=
  year % 4 == 0 && (year % 100 != 0 || year % 400 == 0)

def daysIn (year month : Nat) : Nat :=
  if month = 2 then (if isLeapYear year then 29 else 28)
  else if [4, 6, 9, 11].contains month then 30
  else 31

/-- Whether numbers name a day. There is no year zero. -/
def isDay (year month day : Nat) : Bool :=
  1 ≤ year && 1 ≤ month && month ≤ 12 && 1 ≤ day && day ≤ daysIn year month

def isTime (hour minute second : Nat) : Bool :=
  hour < 24 && minute < 60 && second < 60

/-- Whether hours and minutes are less than a day. -/
def isZone (hours minutes : Nat) : Bool :=
  hours * 60 + minutes < 24 * 60

def numbers (text : List Char) : List Nat :=
  ((text.splitBy fun a b => a.isDigit == b.isDigit).filter (·.all Char.isDigit)).map (valueIn 10)

/-- The sign of a zone and what follows it; the zone comes behind the time, which has the first
colon. -/
def zone (text : List Char) : List Char :=
  (text.dropWhile (· != ':')).dropWhile fun c => c != '+' && c != '-'

/-- Whether a text of the form of a date names a day of the calendar, a time of the day and a zone
less than a day away. -/
def isSound (text : List Char) : Bool :=
  (match numbers text with
  | year :: month :: day :: hour :: minute :: second :: _ =>
    isDay year month day && isTime hour minute second
  | year :: month :: day :: _ => isDay year month day
  | _ => false) &&
  (match numbers (zone text) with
  | hours :: minutes :: _ => isZone hours minutes
  | [hours] => isZone hours 0
  | [] => true)

end Date

end CodeSurvey.Yaml
