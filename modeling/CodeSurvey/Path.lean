import CodeSurvey.Text.Lines

set_option autoImplicit false

namespace CodeSurvey.Path

open Text

/-- Puts a segment on a stack of segments, innermost first. A double dot at the root stays there. -/
def place (stack : List (List Char)) (segment : List Char) : List (List Char) :=
  if segment = ['.', '.'] then stack.drop 1
  else if segment = [] ∨ segment = ['.'] then stack
  else segment :: stack

def settle (segments : List (List Char)) : List (List Char) :=
  (segments.foldl place []).reverse

/-- The text whose segments count: a rooted specifier alone, any other behind its base directory. -/
def joined (base specifier : List Char) : List Char :=
  if specifier.head? = some '/' then specifier.dropWhile (· == '/')
  else base ++ '/' :: specifier

def segments (base specifier : List Char) : List (List Char) :=
  settle (splitAt '/' (joined base specifier))

/-- The normal form of a specifier, seen from a directory: no empty segment, no dot, no double
dot. -/
def normalize (base specifier : String) : String :=
  String.ofList (joinWith ['/'] (segments base.toList specifier.toList))

/-- The directory of a path: what stands before its last slash. -/
def directory (path : String) : String :=
  ((splitLast? '/' path.toList).map fun (before, _) => String.ofList before).getD ""

end CodeSurvey.Path
