import CodeSurvey.Pattern.Search
import CodeSurvey.Text.Hex
import CodeSurvey.Text.Lines
import CodeSurvey.Value.Number
import CodeSurvey.Yaml.Date

set_option autoImplicit false

namespace CodeSurvey.Yaml

open Text Pattern

/-- Why a part of a document has no value though it has the form of one. -/
inductive ValueFault where
  | noDigits
  | tooManyDigits
  /-- A number to the base sixty with a group that counts more than a double can hold. -/
  | tooLarge
  /-- A day, a time or a zone that does not exist. -/
  | noDate
  /-- A number that is no character's. -/
  | noCharacter
  /-- A number of a character that does not fit in 31 bits. -/
  | wideCharacter
  | tooDeep

def ValueFault.message : ValueFault → String
  | .noDigits => "a number has no digits"
  | .tooManyDigits => s!"a number has more than {Number.maxDigits} digits"
  | .tooLarge => "a number has too many groups"
  | .noDate => "a date does not exist"
  | .noCharacter => "a character does not exist"
  | .wideCharacter => "the number of a character is too large"
  | .tooDeep => "collections are nested too deeply"

/-- The marks with a meaning of their own. -/
inductive Special where
  /-- The key of fields to take over from other objects. -/
  | merge
  /-- The key of the value that stands for the object. -/
  | value
  deriving DecidableEq

def Special.name : Special → String
  | .merge => "merge"
  | .value => "value"

inductive Plain where
  | null
  | bool (b : Bool)
  | int (n : Int)
  | float (x : Float)
  | date (timed : Bool)
  | special (mark : Special)
  | faulty (fault : ValueFault)
  | text

namespace Plain

def nullWords : List String := ["", "~", "null", "Null", "NULL"]

def trueWords : List String :=
  ["yes", "Yes", "YES", "true", "True", "TRUE", "on", "On", "ON"]

def falseWords : List String :=
  ["no", "No", "NO", "false", "False", "FALSE", "off", "Off", "OFF"]

def isDigitOrBar (c : Char) : Bool :=
  c.isDigit || c == '_'

def sign : Pattern :=
  .optional (.one fun c => c == '-' || c == '+')

def digit : Pattern :=
  .one Char.isDigit

def digits2 : Pattern :=
  .seq digit (.optional digit)

/-- A pattern for a whole text. -/
def whole (parts : List Pattern) : Pattern :=
  .all ([.textStart] ++ parts ++ [.textEnd])

/-- Groups of a number to the base sixty. -/
def sixties : Pattern :=
  let group := .all [.char ':', .optional (.one fun c => '0' ≤ c && c ≤ '5'), digit]
  .seq group (.star group)

def decimalInteger : Pattern :=
  whole [sign, .alt (.char '0')
    (.seq (.one fun c => '1' ≤ c && c ≤ '9') (.many isDigitOrBar))]

def octalInteger : Pattern :=
  whole [sign, .char '0', .many1 fun c => ('0' ≤ c && c ≤ '7') || c == '_']

def binaryInteger : Pattern :=
  whole [sign, .text "0b", .many1 fun c => c == '0' || c == '1' || c == '_']

def hexInteger : Pattern :=
  whole [sign, .text "0x", .many1 fun c =>
    c.isDigit || ('a' ≤ c && c ≤ 'f') || ('A' ≤ c && c ≤ 'F') || c == '_']

def sixtyInteger : Pattern :=
  whole [sign, .one fun c => '1' ≤ c && c ≤ '9', .many isDigitOrBar, sixties]

/-- An exponent, which has a sign. -/
def exponent : Pattern :=
  .optional (.all [.one fun c => c == 'e' || c == 'E', .one fun c => c == '-' || c == '+',
    .many1 Char.isDigit])

def pointNumber : Pattern :=
  whole [sign, digit, .many isDigitOrBar, .char '.', .many isDigitOrBar, exponent]

def partNumber : Pattern :=
  whole [.char '.', digit, .many isDigitOrBar, exponent]

def sixtyNumber : Pattern :=
  whole [sign, digit, .many isDigitOrBar, sixties, .char '.', .many isDigitOrBar]

def infinite : Pattern :=
  whole [sign, .char '.', .any [.text "inf", .text "Inf", .text "INF"]]

def undefined : Pattern :=
  whole [.char '.', .any [.text "nan", .text "NaN", .text "NAN"]]

def dayForm : Pattern :=
  whole [digit, digit, digit, digit, .char '-', digit, digit, .char '-', digit, digit]

def momentForm : Pattern :=
  let gap := fun c => c == ' ' || c == '\t'
  whole [digit, digit, digit, digit, .char '-', digits2, .char '-', digits2,
    .alt (.one fun c => c == 'T' || c == 't') (.many1 gap),
    digits2, .char ':', digit, digit, .char ':', digit, digit,
    .optional (.seq (.char '.') (.many Char.isDigit)),
    .optional (.seq (.many gap) (.alt (.char 'Z')
      (.all [.one fun c => c == '-' || c == '+', digits2,
        .optional (.all [.char ':', digit, digit])])))]

/-- The value of digits to a base of which a text may have any number. -/
def digitsIn (base : Nat) (digits : List Char) : Except ValueFault Nat :=
  if digits.isEmpty then .error .noDigits else .ok (valueIn base digits)

def sixtyValue (groups : List (List Char)) : Except ValueFault Nat :=
  if groups.any fun group => Number.maxDigits < group.length then .error .tooManyDigits
  else .ok (groups.foldl (fun value group => value * 60 + valueIn 10 group) 0)

def unsignedInteger (text : List Char) : Except ValueFault Nat :=
  match text with
  | '0' :: 'b' :: digits => digitsIn 2 digits
  | '0' :: 'x' :: digits => digitsIn 16 digits
  | '0' :: digits => .ok (valueIn 8 digits)
  | _ => sixtyValue (splitAt ':' text)

/-- A number of groups to the base sixty, the last one with a fraction. The groups are added up from
the last one on, each times a power of sixty that is rounded once. -/
def sixtyFloat (groups : List Float) : Except ValueFault Float :=
  groups.reverse.zipIdx.foldlM (fun sum (group, place) =>
    (Number.ofInteger? (Int.pow 60 place)).elim (.error .tooLarge) fun unit => .ok (sum + group * unit)) 0

def unsignedFloat (text : List Char) : Except ValueFault Float :=
  if text.contains ':' then
    sixtyFloat ((splitAt ':' text).map fun group => (Number.decimal? group).getD 0)
  else .ok ((Number.decimal? text).getD 0)

def orFaulty {α : Type} (meaning : α → Plain) : Except ValueFault α → Plain
  | .ok found => meaning found
  | .error fault => .faulty fault

/-- What a text without quotes means: null, a truth value, a number, a date, or just a text. Bars
inside of numbers mean nothing. -/
def ofText (text : List Char) : Plain :=
  let word := String.ofList text
  let (negative, size) := Number.takeSign (text.filter (· != '_'))
  let isOneOf (patterns : List Pattern) : Bool :=
    patterns.any fun p => (p.matchStart text).isSome
  if nullWords.contains word then .null
  else if trueWords.contains word then .bool true
  else if falseWords.contains word then .bool false
  else if isOneOf [pointNumber, partNumber, sixtyNumber] then
    orFaulty (fun x => .float (if negative then -x else x)) (unsignedFloat size)
  else if isOneOf [infinite] then .float (if negative then -1.0 / 0.0 else 1.0 / 0.0)
  else if isOneOf [undefined] then .float (0.0 / 0.0)
  else if isOneOf [decimalInteger, octalInteger, binaryInteger, hexInteger, sixtyInteger] then
    orFaulty (fun n => .int (Number.signed negative n)) (unsignedInteger size)
  else if isOneOf [dayForm, momentForm] then
    if Date.isSound text then .date (!isOneOf [dayForm]) else .faulty .noDate
  else if word = "<<" then .special .merge
  else if word = "=" then .special .value
  else .text

end Plain

end CodeSurvey.Yaml
