import CodeSurvey.Pattern.Search
import CodeSurvey.Source.Body
import CodeSurvey.Source.File

set_option autoImplicit false

namespace CodeSurvey

open Text Pattern

structure Redundant where
  kind : String
  file : String
  line : Int
  message : String
  suggestion : String

/-- A check of a line, given the statement before it. -/
structure RedundancyRule where
  kind : String
  applies : Option (List Char) → List Char → Bool
  message : String
  suggestion : String

namespace Redundant

def onLine (p : Pattern) (_ : Option (List Char)) (line : List Char) : Bool :=
  p.occursIn line

/-- A condition in parentheses that is one word. -/
def constant (word : String) : Pattern :=
  .all [.edge, .text "if", blanks, .char '(', blanks, .text word, blanks, .char ')']

def alwaysTrue : RedundancyRule :=
  ⟨"redundant_condition", onLine (constant "true"), "Condition is always true",
    "Remove the if statement and keep only the code block"⟩

def alwaysFalse : RedundancyRule :=
  ⟨"redundant_condition", onLine (constant "false"), "Condition is always false",
    "Remove this entire if block as it will never execute"⟩

def doubleNegation : RedundancyRule :=
  ⟨"unnecessary_complexity",
    onLine (.all [.text "!!", blanks, .one fun c => isWord c || c == '$']),
    "Double negation detected", "Use Boolean() or remove unnecessary negations"⟩

def consoleCall : RedundancyRule :=
  ⟨"unused_code",
    onLine (.all [.edge, .text "console.",
      .any [.text "log", .text "debug", .text "info", .text "warn"], blanks, .char '(']),
    "Console statement found", "Remove console statements before production deployment"⟩

def printCall : RedundancyRule :=
  ⟨"unused_code", onLine (.all [.edge, .text "System.out.println", .edge]),
    "Debug print statement found", "Remove System.out.println before production"⟩

def dumpCall : RedundancyRule :=
  ⟨"unused_code",
    onLine (.all [.edge, .any [.text "var_dump", .text "print_r"], blanks, .char '(']),
    "Debug statement found", "Remove var_dump/print_r before production"⟩

/-- A condition at the beginning of a line that is one word and a colon. -/
def plainConstant (word : String) : Pattern :=
  .all [.textStart, blanks, .optional (.text "el"), .text "if", blanks1, .text word, blanks,
    .char ':']

def plainTrue : RedundancyRule :=
  ⟨"redundant_condition", onLine (plainConstant "True"), "Condition is always True",
    "Remove the if statement and unindent the code block"⟩

def plainFalse : RedundancyRule :=
  ⟨"redundant_condition", onLine (plainConstant "False"), "Condition is always False",
    "Remove this entire if block as it will never execute"⟩

/-- A `pass` with a statement before it at the same depth that opens no block. -/
def needlessPass (before : Option (List Char)) (line : List Char) : Bool :=
  trim line == "pass".toList &&
    before.any fun statement =>
      indentation statement == indentation line && (trimEnd statement).getLast? != some ':'

def emptyPass : RedundancyRule :=
  ⟨"unused_code", needlessPass, "Empty pass statement", "Remove pass or add implementation"⟩

def rules : Family → List RedundancyRule
  | .ecmascript => [alwaysTrue, alwaysFalse, doubleNegation, consoleCall]
  | .java => [alwaysTrue, alwaysFalse, printCall]
  | .php => [alwaysTrue, alwaysFalse, doubleNegation, dumpCall]
  | .python => [plainTrue, plainFalse, emptyPass]

/-- Whether a line is a statement: neither blank nor a comment. -/
def isStatement (line : List Char) : Bool :=
  !isBlankText line && (trimStart line).head? != some '#'

/-- The redundant lines from a line on; `before` is the last statement before it. -/
def detectFrom (rules : List RedundancyRule) (file : String) :
    Option (List Char) → Nat → List (List Char) → List Redundant
  | _, _, [] => []
  | before, number, line :: rest =>
    ((rules.filter fun rule => rule.applies before line).map fun rule =>
      ⟨rule.kind, file, number, rule.message, rule.suggestion⟩) ++
      detectFrom rules file (if isStatement line then some line else before) (number + 1) rest

def detect (file : SourceFile) : List Redundant :=
  file.family.elim [] fun family => detectFrom (rules family) file.path none 1 file.lines

end Redundant

end CodeSurvey
