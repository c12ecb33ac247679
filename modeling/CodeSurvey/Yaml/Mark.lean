set_option autoImplicit false

namespace CodeSurvey.Yaml

/-- A place: characters before it, lines before it, characters before it on its line. -/
structure Mark where
  index : Nat
  line : Nat
  column : Nat
  deriving DecidableEq, Inhabited

def isLineEnd (c : Char) : Bool :=
  [0xA, 0xD, 0x85, 0x2028, 0x2029].contains c.toNat

/-- Whether a place is followed by the end of the text, a line end, a space or a tab. -/
def isGapNext (text : List Char) : Bool :=
  text.head?.all fun c => c == ' ' || c == '\t' || isLineEnd c

namespace Mark

/-- The most characters of a line that are shown on one side of a place. -/
def sideLimit : Nat := 37

/-- The part of a line on one side, nearest character first, and whether it was cut. A cut part ends
five characters before the limit. -/
def side (text : List Char) : List Char × Bool :=
  let part := text.takeWhile fun c => !isLineEnd c && c.toNat != 0
  if part.length < sideLimit then (part, false) else (part.take (sideLimit - 5), true)

/-- The text around a place with a caret below it. -/
def snippet (source : List Char) (mark : Mark) : String :=
  let (before, cutBefore) := side (source.take mark.index).reverse
  let (after, cutAfter) := side (source.drop mark.index)
  let dots (cut : Bool) : String := if cut then " ... " else ""
  let indent := List.replicate 4 ' '
  let gap := List.replicate (4 + before.length + (dots cutBefore).length) ' '
  String.ofList indent ++ dots cutBefore ++ String.ofList (before.reverse ++ after) ++
    dots cutAfter ++ "\n" ++ String.ofList gap ++ "^"

def describe (source : List Char) (mark : Mark) : String :=
  s!"  in \"<unicode string>\", line {mark.line + 1}, column {mark.column + 1}:\n" ++
    snippet source mark

end Mark

end CodeSurvey.Yaml
