set_option autoImplicit false

namespace CodeSurvey.Text

/-- The parts of a text between the occurrences of `mark`; there is always at least one. -/
def splitAt (mark : Char) (text : List Char) : List (List Char) :=
  text.foldr
    (fun c parts =>
      if c = mark then [] :: parts
      else
        match parts with
        | [] => [[c]]
        | first :: more => (c :: first) :: more)
    [[]]

/-- The lines of a source text, split at the newline character only. -/
def lines (text : List Char) : List (List Char) :=
  splitAt '\n' text

/-- Parts put together with `mark` between neighbours. -/
def joinWith (mark : List Char) (parts : List (List Char)) : List Char :=
  mark.intercalate parts

def unlines (parts : List (List Char)) : List Char :=
  joinWith ['\n'] parts

/-- The part of a text before the last `mark` and the part after it. -/
def splitLast? (mark : Char) (text : List Char) : Option (List Char × List Char) :=
  let after := (text.reverse.takeWhile (· ≠ mark)).reverse
  if text.contains mark then some (text.take (text.length - after.length - 1), after) else none

/-- What follows the last `mark`, or the whole text. -/
def afterLast (mark : Char) (text : List Char) : List Char :=
  (text.reverse.takeWhile (· ≠ mark)).reverse

def hasPart (part : List Char) : List Char → Bool
  | [] => part.isEmpty
  | c :: rest => part.isPrefixOf (c :: rest) || hasPart part rest

/-- A carriage return, alone or before a newline, becomes a newline. -/
def unifyBreaks (text : List Char) : List Char :=
  (text.zip (' ' :: text)).filterMap fun (c, before) =>
    if c = '\n' ∧ before = '\r' then none
    else if c = '\r' then some '\n'
    else some c

/-- Characters that end a line in a list file: besides the newline and the carriage return, the
vertical tab, the form feed, three separators, the next-line control and the two Unicode
separators. -/
def isBreak (c : Char) : Bool :=
  [0xA, 0xB, 0xC, 0xD, 0x1C, 0x1D, 0x1E, 0x85, 0x2028, 0x2029].contains c.toNat

/-- The lines of a list file: the parts between breaks, without an empty last part. -/
def listLines (text : List Char) : List (List Char) :=
  let parts := splitAt '\n' ((unifyBreaks text).map fun c => if isBreak c then '\n' else c)
  if parts.getLast? = some [] then parts.dropLast else parts

end CodeSurvey.Text
