import CodeSurvey.Value.Literal

set_option autoImplicit false

namespace CodeSurvey

open Text

namespace Json

def unit (n : Nat) : String :=
  "\\u" ++ hexText 4 n

/-- One character of a JSON string. Above the basic plane a character is written as two units. -/
def escape (c : Char) : String :=
  if c = '"' then "\\\""
  else if c = '\\' then "\\\\"
  else if c = '\n' then "\\n"
  else if c = '\r' then "\\r"
  else if c = '\t' then "\\t"
  else if c.toNat = 8 then "\\b"
  else if c.toNat = 12 then "\\f"
  else if 0x20 ≤ c.toNat ∧ c.toNat ≤ 0x7E then c.toString
  else if c.toNat ≤ 0xFFFF then unit c.toNat
  else
    let above := c.toNat - 0x10000
    unit (0xD800 + above / 0x400) ++ unit (0xDC00 + above % 0x400)

def string (s : String) : String :=
  "\"" ++ String.join (s.toList.map escape) ++ "\""

/-- A number that may be infinite or undefined. -/
def number (x : Float) : String :=
  match Decimal.read x with
  | .notANumber => "NaN"
  | .infinite negative => Decimal.signText negative ++ "Infinity"
  | .finite .. => Decimal.text x

def newline (depth : Nat) : String :=
  "\n" ++ String.ofList (List.replicate (2 * depth) ' ')

end Json

namespace Value

mutual

/-- The JSON text of a value on one line, in ASCII. -/
def toJson : Value → String
  | .null => "null"
  | .bool true => "true"
  | .bool false => "false"
  | .int n => toString n
  | .float x => Json.number x
  | .text s | .date s _ => Json.string s
  | .list items => "[" ++ ", ".intercalate (jsonItems items) ++ "]"
  | .object fields => "\x7b" ++ ", ".intercalate (jsonFields fields) ++ "\x7d"

def jsonItems : List Value → List String
  | [] => []
  | first :: rest => first.toJson :: jsonItems rest

def jsonFields : List (String × Value) → List String
  | [] => []
  | (key, value) :: rest => (Json.string key ++ ": " ++ value.toJson) :: jsonFields rest

end

mutual

/-- The JSON text of a value at a depth, one item a line and two blanks of indentation a level. -/
def toJsonLines (depth : Nat) : Value → String
  | .null => "null"
  | .bool true => "true"
  | .bool false => "false"
  | .int n => toString n
  | .float x => Json.number x
  | .text s | .date s _ => Json.string s
  | .list [] => "[]"
  | .list (first :: rest) =>
    "[" ++ Json.newline (depth + 1) ++
      ("," ++ Json.newline (depth + 1)).intercalate (lineItems (depth + 1) (first :: rest)) ++
      Json.newline depth ++ "]"
  | .object [] => "\x7b\x7d"
  | .object (first :: rest) =>
    "\x7b" ++ Json.newline (depth + 1) ++
      ("," ++ Json.newline (depth + 1)).intercalate (lineFields (depth + 1) (first :: rest)) ++
      Json.newline depth ++ "\x7d"

def lineItems (depth : Nat) : List Value → List String
  | [] => []
  | first :: rest => first.toJsonLines depth :: lineItems depth rest

def lineFields (depth : Nat) : List (String × Value) → List String
  | [] => []
  | (key, value) :: rest =>
    (Json.string key ++ ": " ++ value.toJsonLines depth) :: lineFields depth rest

end

def toJsonDocument (value : Value) : String :=
  value.toJsonLines 0

end Value

end CodeSurvey
