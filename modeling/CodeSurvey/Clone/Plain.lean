import CodeSurvey.Text.Blank

set_option autoImplicit false

namespace CodeSurvey.Clone

open Text

/-- Takes out parts of a text. `part?` gives the length of the part that begins at a place, from the
character before and those behind; `skip` characters still belong to a part. -/
def eraseFrom (part? : Option Char → List Char → Option Nat) :
    Option Char → Nat → List Char → List Char
  | _, _, [] => []
  | _, skip + 1, c :: rest => eraseFrom part? (some c) skip rest
  | last, 0, c :: rest =>
    match part? last (c :: rest) with
    | some length => eraseFrom part? (some c) (length - 1) rest
    | none => c :: eraseFrom part? (some c) 0 rest

def erase (part? : Option Char → List Char → Option Nat) (text : List Char) : List Char :=
  eraseFrom part? none 0 text

/-- How many characters there are up to the end of a block comment, its end included. -/
def closing? : List Char → Option Nat
  | '*' :: '/' :: _ => some 2
  | _ :: rest => (closing? rest).map (· + 1)
  | [] => none

def blockComment? (_ : Option Char) : List Char → Option Nat
  | '/' :: '*' :: rest => (closing? rest).map (· + 2)
  | _ => none

def lineComment? (_ : Option Char) : List Char → Option Nat
  | '/' :: '/' :: rest => some (2 + (rest.takeWhile (· ≠ '\n')).length)
  | _ => none

/-- A line that is a comment as a whole, from its beginning. -/
def hashComment? (last : Option Char) (text : List Char) : Option Nat :=
  let gap := (text.takeWhile fun c => c == ' ' || c == '\t').length
  if last.all (· == '\n') && (text.drop gap).head? == some '#' then
    some (text.takeWhile (· ≠ '\n')).length
  else none

/-- Code without block comments, comments to the end of a line and lines that are comments as a
whole, each taken out in a pass of its own, and with single spaces for blanks. -/
def plain (text : List Char) : List Char :=
  trim (collapseBlanks (erase hashComment? (erase lineComment? (erase blockComment? text))))

end CodeSurvey.Clone
