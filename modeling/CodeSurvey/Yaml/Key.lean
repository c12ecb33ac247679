import CodeSurvey.Value.Json
import CodeSurvey.Value.Number

set_option autoImplicit false

namespace CodeSurvey.Yaml

/-- A key of a document, which need not be a text. -/
inductive Key where
  | null
  | bool (b : Bool)
  | int (n : Int)
  | float (x : Float)
  | text (s : String)
  | date (text : String)

namespace Key

/-- The exact number that a key means, as a double is read. -/
def reading? : Key → Option Decimal.Reading
  | .bool b => some (.finite false b.toNat 0)
  | .int n => some (.finite (n < 0) n.natAbs 0)
  | .float x => some (Decimal.read x)
  | _ => none

/-- Whether two exact numbers are equal. Not a number is the same as itself here. -/
def equal : Decimal.Reading → Decimal.Reading → Bool
  | .finite negative units scale, .finite negative' units' scale' =>
    let (num, den) := Decimal.fraction units scale
    let (num', den') := Decimal.fraction units' scale'
    Number.signed negative (num * den') == Number.signed negative' (num' * den)
  | .infinite negative, .infinite negative' => negative == negative'
  | .notANumber, .notANumber => true
  | _, _ => false

/-- Whether two keys are the same. Truth values are the numbers one and zero, and numbers are the
same key if they are equal, whole or not. -/
def same (a b : Key) : Bool :=
  match a, b with
  | .null, .null => true
  | .text s, .text t | .date s, .date t => s == t
  | _, _ =>
    match a.reading?, b.reading? with
    | some x, some y => equal x y
    | _, _ => false

def name : Key → String
  | .null => "null"
  | .bool true => "true"
  | .bool false => "false"
  | .int n => toString n
  | .float x => Json.number x
  | .text s | .date s => s

/-- Gives a key a value: in its place and under the key that is there, else at the end. -/
def put : List (Key × Value) → Key → Value → List (Key × Value)
  | [], key, value => [(key, value)]
  | (first, old) :: rest, key, value =>
    if first.same key then (first, value) :: rest else (first, old) :: put rest key value

/-- The fields of pairs. Of a key only its name is kept: a number and the text of its digits are
different keys but become one field, with the value of the later one. -/
def fields (pairs : List (Key × Value)) : Fields :=
  let kept := pairs.foldl (fun found (key, value) => put found key value) []
  Fields.ofPairs (kept.map fun (key, value) => (key.name, value))

end Key

end CodeSurvey.Yaml
