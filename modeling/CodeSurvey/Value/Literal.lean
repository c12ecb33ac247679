import CodeSurvey.Text.Hex
import CodeSurvey.Decimal.Layout
import CodeSurvey.Text.Printable
import CodeSurvey.Value.Basic

set_option autoImplicit false

namespace CodeSurvey

open Text

namespace Literal

/-- Double marks stand around a text that has a single one and no double one. -/
def quoteMark (text : List Char) : Char :=
  if text.contains '\'' && !text.contains '"' then '"' else '\''

/-- One character of a quoted text. Those that do not print are written by their number. -/
def quoteChar (mark c : Char) : String :=
  if c = mark ∨ c = '\\' then "\\" ++ c.toString
  else if c = '\n' then "\\n"
  else if c = '\r' then "\\r"
  else if c = '\t' then "\\t"
  else if Text.isPrintable c then c.toString
  else if c.toNat ≤ 0xFF then "\\x" ++ hexText 2 c.toNat
  else if c.toNat ≤ 0xFFFF then "\\u" ++ hexText 4 c.toNat
  else "\\U" ++ hexText 8 c.toNat

def quote (text : String) : String :=
  let mark := quoteMark text.toList
  mark.toString ++ String.join (text.toList.map (quoteChar mark)) ++ mark.toString

end Literal

namespace Value

mutual

/-- The literal form of a value in messages. -/
def literal : Value → String
  | .null => "None"
  | .bool true => "True"
  | .bool false => "False"
  | .int n => toString n
  | .float x => Decimal.text x
  | .text s => Literal.quote s
  | .date s _ => s
  | .list items => "[" ++ ", ".intercalate (literals items) ++ "]"
  | .object fields => "\x7b" ++ ", ".intercalate (fieldLiterals fields) ++ "\x7d"

def literals : List Value → List String
  | [] => []
  | first :: rest => first.literal :: literals rest

def fieldLiterals : List (String × Value) → List String
  | [] => []
  | (key, value) :: rest => (Literal.quote key ++ ": " ++ value.literal) :: fieldLiterals rest

end

end Value

end CodeSurvey
