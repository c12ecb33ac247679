set_option autoImplicit false

namespace CodeSurvey

/-- A value of a data document: what rules files, requests and reports are made of. -/
inductive Value where
  | null
  | bool (b : Bool)
  | int (n : Int)
  | float (x : Float)
  | text (s : String)
  /-- A date, with a time of day if `timed`. -/
  | date (s : String) (timed : Bool)
  | list (items : List Value)
  | object (fields : List (String × Value))
  deriving Inhabited

/-- The fields of an object, in the order in which their names first came. -/
abbrev Fields := List (String × Value)

namespace Fields

def get? (fields : Fields) (key : String) : Option Value :=
  (fields.find? (·.1 == key)).map (·.2)

/-- Gives a field a value: in its place if it is there, else at the end. -/
def put : Fields → String → Value → Fields
  | [], key, value => [(key, value)]
  | (name, old) :: rest, key, value =>
    if name = key then (name, value) :: rest else (name, old) :: put rest key value

/-- Fields from a list of pairs in which a later value of a name replaces an earlier one. -/
def ofPairs (pairs : List (String × Value)) : Fields :=
  pairs.foldl (fun fields (key, value) => fields.put key value) []

end Fields

namespace Value

/-- Whether a value counts as nothing: null, false, zero, or without content. -/
def isVoid : Value → Bool
  | .null => true
  | .bool b => !b
  | .int n => n == 0
  | .float x => x == 0
  | .text s => s.isEmpty
  | .date .. => false
  | .list items => items.isEmpty
  | .object fields => fields.isEmpty

def typeName : Value → String
  | .null => "NoneType"
  | .bool _ => "bool"
  | .int _ => "int"
  | .float _ => "float"
  | .text _ => "str"
  | .date _ timed => if timed then "datetime.datetime" else "datetime.date"
  | .list _ => "list"
  | .object _ => "dict"

def nat (n : Nat) : Value :=
  .int n

def texts (items : List String) : Value :=
  .list (items.map .text)

end Value

end CodeSurvey
