import CodeSurvey.Text.Blank
import CodeSurvey.Text.Digit
import CodeSurvey.Text.Lowercase
import CodeSurvey.Value.Literal

set_option autoImplicit false

namespace CodeSurvey

open Text

/-- The most digits that a text of a whole number may have. -/
def Number.maxDigits : Nat := 4300

/-- Whether a whole number has no more digits than are written. -/
def Number.isWritable (n : Int) : Bool :=
  n.natAbs < Nat.pow 10 Number.maxDigits

/-- Why a rule's value cannot be used. -/
inductive RuleFault where
  | unreadableInteger (text : String)
  /-- A text of a whole number with more digits than are read. -/
  | tooManyDigits (count : Nat)
  | unreadableNumber (text : String)
  /-- A value of a type that has no whole number. -/
  | integerOf (typeName : String)
  /-- A value of a type that has no number. -/
  | numberOf (typeName : String)
  /-- A value in the place of a section that has no entries. -/
  | noSection (typeName : String)
  /-- A value in the place of rules that has no sections. -/
  | noRules (typeName : String)
  | infiniteInteger
  | notANumberInteger
  /-- A whole number that is too large for a double. -/
  | tooLarge
  /-- A whole number with more digits than are written. -/
  | unwritable

namespace RuleFault

/-- The most characters of a quoted text that the wording shows. -/
def maxQuoted : Nat := 200

def message : RuleFault → String
  | .unreadableInteger text =>
    "invalid literal for int() with base 10: " ++
      String.ofList ((Literal.quote text).toList.take maxQuoted)
  | .tooManyDigits count =>
    s!"Exceeds the limit ({Number.maxDigits} digits) for integer string conversion: value has {count} " ++
      "digits; use sys.set_int_max_str_digits() to increase the limit"
  | .unreadableNumber text => "could not convert string to float: " ++ Literal.quote text
  | .integerOf type =>
    s!"int() argument must be a string, a bytes-like object or a real number, not '{type}'"
  | .numberOf type => s!"float() argument must be a string or a real number, not '{type}'"
  | .noSection type => s!"'{type}' object has no attribute 'get'"
  | .noRules type => s!"'{type}' object has no attribute 'items'"
  | .infiniteInteger => "cannot convert float infinity to integer"
  | .notANumberInteger => "cannot convert float NaN to integer"
  | .tooLarge => "int too large to convert to float"
  | .unwritable =>
    s!"Exceeds the limit ({Number.maxDigits} digits) for integer string conversion; " ++
      "use sys.set_int_max_str_digits() to increase the limit"

end RuleFault

namespace Number

def asciiDigits (text : List Char) : List Char :=
  text.map fun c => (digitValue? c).elim c fun value => Char.ofNat (48 + value)

/-- Drops underscores that stand between two digits; none if one stands elsewhere. -/
def dropUnderscores : Bool → List Char → Option (List Char)
  | _, [] => some []
  | afterDigit, '_' :: rest =>
    if afterDigit && (rest.head?.any Char.isDigit) then dropUnderscores false rest else none
  | _, c :: rest => (dropUnderscores c.isDigit rest).map (c :: ·)

def digitsValue (digits : List Char) : Nat :=
  digits.foldl (fun value c => value * 10 + (c.toNat - 48)) 0

/-- Splits off a sign; true means negative. -/
def takeSign : List Char → Bool × List Char
  | '-' :: rest => (true, rest)
  | '+' :: rest => (false, rest)
  | text => (false, text)

def signed (negative : Bool) (n : Nat) : Int :=
  if negative then -(n : Int) else n

/-- Blanks that may stand around a number: all but the four separators U+001C to U+001F. -/
def isSpace (c : Char) : Bool :=
  isBlank c && !(0x1C ≤ c.toNat && c.toNat ≤ 0x1F)

def normalize (text : String) : List Char :=
  asciiDigits (trimOf isSpace text.toList)

/-- The whole number that a text holds: digits of any script, with single underscores between them
and blanks around. Digits are counted before what follows them is looked at. -/
def integer (text : String) : Except RuleFault Int :=
  let (negative, body) := takeSign (normalize text)
  let (leading, rest) := body.span fun c => c.isDigit || c == '_'
  match dropUnderscores false leading with
  | none => .error (.unreadableInteger text)
  | some digits =>
    if maxDigits < digits.length then .error (.tooManyDigits digits.length)
    else if digits.isEmpty || !rest.isEmpty then .error (.unreadableInteger text)
    else .ok (signed negative (digitsValue digits))

/-- The double nearest to `digits · 10 ^ power`. Powers that leave the range of doubles for so many
digits are cut. -/
def ofDecimal (digits : Nat) (power : Int) : Float :=
  if digits = 0 then 0
  else if 0 ≤ power then Float.ofScientific digits false (min power.toNat 400)
  else Float.ofScientific digits true (min (-power).toNat (digits.log2 + 400))

/-- The power of ten behind the mark of an exponent; none if the text is something else. -/
def exponent? : List Char → Option Int
  | [] => some 0
  | mark :: rest =>
    if mark = 'e' ∨ mark = 'E' then
      let (negative, digits) := takeSign rest
      if digits.isEmpty || !digits.all Char.isDigit then none
      else some (signed negative (digitsValue digits))
    else none

def decimal? (text : List Char) : Option Float :=
  let whole := text.takeWhile Char.isDigit
  let rest := text.dropWhile Char.isDigit
  let (part, rest) :=
    match rest with
    | '.' :: more => (more.takeWhile Char.isDigit, more.dropWhile Char.isDigit)
    | _ => ([], rest)
  if whole.isEmpty && part.isEmpty then none
  else
    (exponent? rest).map fun power => ofDecimal (digitsValue (whole ++ part)) (power - part.length)

/-- An unsigned number: a decimal or a word for an infinite or an undefined one. -/
def unsigned? (text : List Char) : Option Float :=
  let word := String.ofList (text.map Char.toLower)
  if word = "inf" ∨ word = "infinity" then some (1.0 / 0.0)
  else if word = "nan" then some (0.0 / 0.0)
  else decimal? text

def number? (text : String) : Option Float :=
  (dropUnderscores false (normalize text)).bind fun plain =>
    let (negative, body) := takeSign plain
    (unsigned? body).map fun x => if negative then -x else x

/-- The largest whole numbers round to no finite double. -/
def ofInteger? (n : Int) : Option Float :=
  if n.natAbs < Nat.pow 2 1024 - Nat.pow 2 970 then some (Float.ofInt n) else none

def truncate (x : Float) : Except RuleFault Int :=
  match Decimal.read x with
  | .notANumber => .error .notANumberInteger
  | .infinite _ => .error .infiniteInteger
  | .finite negative units scale =>
    let (num, den) := Decimal.fraction units scale
    .ok (signed negative (num / den))

end Number

namespace Value

def toInteger : Value → Except RuleFault Int
  | .int n => .ok n
  | .bool b => .ok (if b then 1 else 0)
  | .float x => Number.truncate x
  | .text s => Number.integer s
  | other => .error (.integerOf other.typeName)

def toNumber : Value → Except RuleFault Float
  | .int n => (Number.ofInteger? n).elim (.error .tooLarge) .ok
  | .bool b => .ok (if b then 1 else 0)
  | .float x => .ok x
  | .text s => (Number.number? s).elim (.error (.unreadableNumber s)) .ok
  | other => .error (.numberOf other.typeName)

end Value

end CodeSurvey
