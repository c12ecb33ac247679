import CodeSurvey.Pattern.Search
import CodeSurvey.Text.Lines

set_option autoImplicit false

namespace CodeSurvey

open Text

namespace Name

def isStart (c : Char) : Bool :=
  isAsciiLetter c || c == '_' || c == '$'

def isRest (c : Char) : Bool :=
  isWord c || c == '$'

def pattern : Pattern :=
  .seq (.one isStart) (.many isRest)

def isName : List Char → Bool
  | [] => false
  | first :: rest => isStart first && rest.all isRest

/-- The items of a list in commas, trimmed, without empty ones. Parentheses around the list are left
out. -/
def items (list : List Char) : List (List Char) :=
  ((splitAt ',' (trimOf (fun c => c == '(' || c == ')') (trim list))).map trim).filter
    (!·.isEmpty)

/-- The name that an item of a list introduces: what follows its last `as`, or its first word. -/
def localName (item : List Char) : List Char :=
  match (words item).reverse with
  | last :: as :: _ :: _ => if as = ['a', 's'] then last else (words item).headD []
  | _ => (words item).headD []

def firstComponent (name : List Char) : List Char :=
  name.takeWhile (· ≠ '.')

/-- The name that an item of a module list introduces: its alias, or the first component of its
path. -/
def localModule (item : List Char) : List Char :=
  match (words item).reverse with
  | last :: as :: _ :: _ =>
    if as = ['a', 's'] then last else firstComponent ((words item).headD [])
  | _ => firstComponent ((words item).headD [])

end Name

end CodeSurvey
