import CodeSurvey.Text.Units
import CodeSurvey.Value.Number

set_option autoImplicit false

namespace CodeSurvey

open Text

inductive JsonFault where
  | malformed
  /-- A whole number with more digits than are read. -/
  | tooManyDigits
  deriving DecidableEq

namespace JsonReader

def isGap (c : Char) : Bool :=
  c == ' ' || c == '\t' || c == '\n' || c == '\r'

def skip (text : List Char) : List Char :=
  text.dropWhile isGap

def shortEscape? (c : Char) : Option Char :=
  match c with
  | '"' => some '"'
  | '\\' => some '\\'
  | '/' => some '/'
  | 'b' => some (Char.ofNat 8)
  | 'f' => some (Char.ofNat 12)
  | 'n' => some '\n'
  | 'r' => some '\r'
  | 't' => some '\t'
  | _ => none

/-- The code units of a string up to its closing mark, and what follows; `units` holds those already
read, latest first. -/
def readUnits (units : List Nat) : List Char → Option (List Nat × List Char)
  | [] => none
  | '"' :: rest => some (units.reverse, rest)
  | '\\' :: 'u' :: a :: b :: c :: d :: rest =>
    match hexNumber? [a, b, c, d] with
    | some n => readUnits (n :: units) rest
    | none => none
  | '\\' :: e :: rest =>
    match shortEscape? e with
    | some c => readUnits (c.toNat :: units) rest
    | none => none
  | c :: rest =>
    if c.toNat < 0x20 ∨ c = '\\' then none else readUnits (c.toNat :: units) rest

def readString (text : List Char) : Option (String × List Char) :=
  (readUnits [] text).map fun (units, rest) => (String.ofList (ofCodes units), rest)

def takeDigits (text : List Char) : List Char × List Char :=
  (text.takeWhile Char.isDigit, text.dropWhile Char.isDigit)

def readFraction (text : List Char) : List Char × List Char :=
  match text with
  | '.' :: more =>
    let (digits, rest) := takeDigits more
    if digits.isEmpty then ([], text) else (digits, rest)
  | _ => ([], text)

def readExponent (text : List Char) : Option Int × List Char :=
  match text with
  | mark :: more =>
    if mark = 'e' ∨ mark = 'E' then
      let (negative, unsigned) := Number.takeSign more
      let (digits, rest) := takeDigits unsigned
      if digits.isEmpty then (none, text)
      else (some (Number.signed negative (Number.digitsValue digits)), rest)
    else (none, text)
  | [] => (none, text)

/-- An unsigned number: whole unless it has a fraction or an exponent. -/
def readUnsigned (negative : Bool) (text : List Char) : Except JsonFault (Value × List Char) :=
  let (digits, rest) := takeDigits text
  let (digits, rest) := if digits.head? = some '0' then (['0'], text.drop 1) else (digits, rest)
  if digits.isEmpty then .error .malformed
  else
    let (part, rest) := readFraction rest
    let (power, rest) := readExponent rest
    if part.isEmpty ∧ power.isNone then
      if Number.maxDigits < digits.length then .error .tooManyDigits
      else .ok (.int (Number.signed negative (Number.digitsValue digits)), rest)
    else
      let size := Number.ofDecimal (Number.digitsValue (digits ++ part))
        (power.getD 0 - part.length)
      .ok (.float (if negative then -size else size), rest)

/-- The words that are values, those for infinite and undefined numbers among them. -/
def wordValues : List (String × Value) :=
  [("null", .null), ("true", .bool true), ("false", .bool false), ("NaN", .float (0.0 / 0.0)),
   ("Infinity", .float (1.0 / 0.0)), ("-Infinity", .float (-1.0 / 0.0))]

def readWord (text : List Char) : Option (Value × List Char) :=
  (wordValues.find? fun (word, _) => word.toList.isPrefixOf text).map fun (word, value) =>
    (value, text.drop word.length)

def readScalar (text : List Char) : Except JsonFault (Value × List Char) :=
  match readWord text with
  | some found => .ok found
  | none =>
    match text with
    | '-' :: rest => readUnsigned true rest
    | _ => readUnsigned false text

mutual

/-- A value and what follows it. The first argument bounds the number of steps. -/
def readValue : Nat → List Char → Except JsonFault (Value × List Char)
  | 0, _ => .error .malformed
  | fuel + 1, text =>
    match text with
    | '"' :: rest =>
      (readString rest).elim (.error .malformed) fun (s, rest) => .ok (.text s, rest)
    | '[' :: rest =>
      match skip rest with
      | ']' :: rest => .ok (.list [], rest)
      | rest => readItems fuel [] rest
    | '\x7b' :: rest =>
      match skip rest with
      | '\x7d' :: rest => .ok (.object [], rest)
      | rest => readFields fuel [] rest
    | _ => readScalar text

/-- The items of a list from one of them on; `items` holds those before, latest first. -/
def readItems : Nat → List Value → List Char → Except JsonFault (Value × List Char)
  | 0, _, _ => .error .malformed
  | fuel + 1, items, text =>
    match readValue fuel text with
    | .error fault => .error fault
    | .ok (item, rest) =>
      match skip rest with
      | ',' :: rest => readItems fuel (item :: items) (skip rest)
      | ']' :: rest => .ok (.list (item :: items).reverse, rest)
      | _ => .error .malformed

/-- The fields of an object from one of them on; `fields` holds those before, latest first. A name
that is given twice keeps its first place and its last value. -/
def readFields : Nat → List (String × Value) → List Char → Except JsonFault (Value × List Char)
  | 0, _, _ => .error .malformed
  | fuel + 1, fields, text =>
    match text with
    | '"' :: rest =>
      match readString rest with
      | none => .error .malformed
      | some (key, rest) =>
        match skip rest with
        | ':' :: rest =>
          match readValue fuel (skip rest) with
          | .error fault => .error fault
          | .ok (value, rest) =>
            match skip rest with
            | ',' :: rest => readFields fuel ((key, value) :: fields) (skip rest)
            | '\x7d' :: rest => .ok (.object (Fields.ofPairs ((key, value) :: fields).reverse), rest)
            | _ => .error .malformed
        | _ => .error .malformed
    | _ => .error .malformed

end

end JsonReader

/-- The value of a JSON text. Collections may be nested to any depth: there is no limit such as
`Yaml.maxDepth`. -/
def Value.ofJson (text : String) : Except JsonFault Value :=
  let chars := JsonReader.skip text.toList
  match JsonReader.readValue (chars.length + 1) chars with
  | .ok (value, rest) =>
    if (JsonReader.skip rest).isEmpty then .ok value else .error .malformed
  | .error fault => .error fault

end CodeSurvey
