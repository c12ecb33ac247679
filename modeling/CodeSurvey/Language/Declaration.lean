import CodeSurvey.Language.Family
import CodeSurvey.Language.Name

set_option autoImplicit false

namespace CodeSurvey

open Text Pattern

/-- A rule for names declared on a line: a pattern, the part that is the name, and the matches that
are refused. Only the first match on a line counts. -/
structure LineRule where
  pattern : Pattern
  slot : Nat
  refuses : Found → List Char → Bool

namespace LineRule

/-- A rule that captures the name first and refuses nothing. -/
def plain (pattern : Pattern) : LineRule :=
  ⟨pattern, 1, fun _ _ => false⟩

def name? (rule : LineRule) (line : List Char) : Option (List Char) :=
  match rule.pattern.search line with
  | some found =>
    let name := found.part rule.slot
    if name.isEmpty || rule.refuses found line then none else some name
  | none => none

end LineRule

namespace Declaration

def isOneOf (options : List String) (text : List Char) : Bool :=
  options.contains (String.ofList text)

/-- Words that declare a variable. -/
def storage : Pattern :=
  .any [.text "const", .text "let", .text "var"]

/-- A type ascription: a colon and what follows up to an equals sign. -/
def ascription : Pattern :=
  .optional (.seq (.char ':') (.many1 (· != '=')))

/-- `function x(`, `function* x(`. -/
def functionWord : Pattern :=
  .all [.edge, .text "function", blanks, .optional (.char '*'), blanks, .part 1 Name.pattern, blanks,
    .char '(']

/-- `const x = (a) =>`, `let x: T = async a =>`. -/
def arrow : Pattern :=
  .all [.edge, storage, blanks1, .part 1 Name.pattern, blanks, ascription, .char '=', blanks,
    .optional (.seq (.text "async") blanks1),
    .alt (.all [.char '(', .many (· != ')'), .char ')']) Name.pattern, blanks,
    .optional (.all [.char ':', blanks, .many1 (· != '=')]), .text "=>"]

/-- `const x =`, but not a comparison or an arrow. -/
def assignment : Pattern :=
  .all [.edge, storage, blanks1, .part 1 Name.pattern, blanks, ascription, .char '=',
    .absent (.one fun c => c == '=' || c == '>')]

def classWord (name : Pattern) : Pattern :=
  .all [.edge, .text "class", blanks1, .part 1 name]

/-- `def x(`. -/
def definition : Pattern :=
  .all [.textStart, blanks, .optional (.seq (.text "async") blanks1), .text "def", blanks1,
    .part 1 (.many1 isWord), blanks, .char '(']

/-- `x = `, `x: T = ` at the beginning of a line. -/
def plainAssignment : Pattern :=
  .all [.textStart, blanks,
    .part 1 (.seq (.one fun c => isAsciiLetter c || c == '_') (.many isWord)), blanks,
    .optional (.all [.char ':', blanks, .many1 (· != '=')]), .char '=', .absent (.char '=')]

/-- Words that begin a statement and are no variables. -/
def statementWords : List String :=
  ["if", "elif", "else", "for", "while", "return", "def", "class", "with", "import", "from", "lambda"]

/-- `class x` at the beginning of a line. -/
def plainClass : Pattern :=
  .all [.textStart, blanks, .text "class", blanks1, .part 1 (.many1 isWord), .edge]

def modifiers : Pattern :=
  .star (.seq
    (.any [.text "public", .text "private", .text "protected", .text "static", .text "final",
      .text "abstract", .text "synchronized", .text "native", .text "default"])
    blanks1)

def isTypeChar (c : Char) : Bool :=
  isWord c || ['<', '>', '[', ']', '?', ',', '.'].contains c

/-- `T x(`: a type, captured first, and a name. -/
def method : Pattern :=
  .all [.textStart, blanks, modifiers, .part 1 (.few1 fun c => isTypeChar c || c == ' '), blanks1,
    .part 2 (.many1 isWord), blanks, .char '(']

/-- `T x =`: a type, captured first, and a name. -/
def typedAssignment : Pattern :=
  .all [.textStart, blanks, modifiers,
    .part 1 (.seq (.many1 isTypeChar)
      (.optional (.all [blanks, .char '<', .many (· != '='), .char '>']))),
    blanks1, .part 2 (.many1 isWord), blanks, .char '=', .absent (.char '=')]

/-- Words in the place of a type that make the line something else than a declaration. -/
def notTypes : List String :=
  ["return", "new", "else", "throw", "case", "await", "yield", "package", "import"]

/-- Words that look like a method's name in front of a parenthesis. -/
def controlWords : List String :=
  ["if", "for", "while", "switch", "catch", "return", "new", "synchronized", "try", "do", "else"]

def typeWords : List String :=
  ["class ", "interface ", "enum ", "record "]

/-- The last word of the captured type. -/
def typeWord (found : Found) : List Char :=
  ((words (found.part 1)).getLast?).getD []

/-- A method is refused when its type or name is a word of another construct, when the line declares
a type, and when it ends as a statement. -/
def refusesMethod (found : Found) (line : List Char) : Bool :=
  isOneOf notTypes (typeWord found) || isOneOf controlWords (found.part 2) ||
    typeWords.any (fun word => hasPart word.toList line) ||
    (trimEnd line).getLast? == some ';'

/-- A variable is refused when its type is a word of another construct or missing. -/
def refusesTyped (found : Found) (_ : List Char) : Bool :=
  (typeWord found).isEmpty || isOneOf notTypes (typeWord found)

/-- `function x(`, `function &x(`. -/
def sigilFunction : Pattern :=
  .all [.edge, .text "function", blanks1, .optional (.char '&'), blanks, .part 1 (.many1 isWord),
    blanks, .char '(']

/-- `$x =`. -/
def sigilAssignment : Pattern :=
  .all [.char '$', .part 1 (.many1 isWord), blanks, .char '=',
    .absent (.one fun c => c == '=' || c == '>')]

/-- `class x`, `final class x` at the beginning of a line. -/
def modifiedClass : Pattern :=
  .all [.textStart, blanks,
    .optional (.alt (.seq (.text "abstract") blanks1) (.seq (.text "final") blanks1)),
    .text "class", blanks1, .part 1 (.many1 isWord)]

end Declaration

namespace Family

open Declaration

def functionRules : Family → List LineRule
  | .ecmascript => [.plain functionWord, .plain arrow]
  | .python => [.plain definition]
  | .java => [⟨method, 2, refusesMethod⟩]
  | .php => [.plain sigilFunction]

def variableRules : Family → List LineRule
  | .ecmascript => [.plain assignment]
  | .python => [⟨plainAssignment, 1, fun found _ => isOneOf statementWords (found.part 1)⟩]
  | .java => [⟨typedAssignment, 2, refusesTyped⟩]
  | .php => [⟨sigilAssignment, 1, fun found _ => found.part 1 == "this".toList⟩]

def classRules : Family → List LineRule
  | .ecmascript => [.plain (classWord Name.pattern)]
  | .python => [.plain plainClass]
  | .java => [⟨classWord (.many1 isWord), 1, fun _ line => hasPart "public ".toList line⟩]
  | .php => [.plain modifiedClass]

end Family

end CodeSurvey
