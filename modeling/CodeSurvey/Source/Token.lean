import CodeSurvey.Language.Name

set_option autoImplicit false

namespace CodeSurvey.Source

/-- A name without the dollar signs it begins with. -/
def bareName (name : List Char) : List Char :=
  name.dropWhile (· == '$')

/-- The tokens of a line, from left to right. A token begins with an ASCII letter, an underscore or
a dollar sign and goes on over word characters and dollar signs; the dollar signs in front do not
count. -/
def lineTokens (line : List Char) : List (List Char) :=
  (((Pattern.part 1 Name.pattern).scan line).map fun found => bareName (found.part 1)).filter
    (!·.isEmpty)

def tokens (lines : List (List Char)) : List (List Char) :=
  lines.flatMap lineTokens

def tokenCount (lines : List (List Char)) (token : List Char) : Nat :=
  (tokens lines).count token

/-- Every token of the lines with its number of occurrences, in the order of code points. -/
def tokenCounts (lines : List (List Char)) : List (String × Nat) :=
  let found := tokens lines
  (found.eraseDups.mergeSort fun a b => decide (¬ b < a)).map fun token =>
    (String.ofList token, found.count token)

end CodeSurvey.Source
