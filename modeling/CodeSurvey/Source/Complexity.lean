import CodeSurvey.Pattern.Search

set_option autoImplicit false

namespace CodeSurvey.Source

open Text Pattern

def wholeWord (word : String) : Pattern :=
  .all [.edge, .text word, .edge]

/-- The first character behind the question mark of a conditional. -/
def beginsBranch (c : Char) : Bool :=
  !isBlank c && c != ':' && c != '?' && c != '.'

/-- A conditional expression: a question mark, a branch on one line, a colon. -/
def conditional : Pattern :=
  .all [.char '?', blanks, .one beginsBranch, .many fun c => c != ':' && c != '\n', .char ':']

/-- What counts as a decision point. The second word of an `else if` counts once more for the `if`
in it. -/
def decisions : List Pattern :=
  [wholeWord "if", .all [.edge, .text "else", blanks1, .text "if", .edge], wholeWord "elif",
   wholeWord "while", wholeWord "for", wholeWord "case", wholeWord "catch", .text "&&", .text "||",
   conditional]

/-- One more than the number of decision points. -/
def complexity (code : List Char) : Nat :=
  decisions.foldl (fun sum decision => sum + decision.occurrences code) 1

end CodeSurvey.Source
