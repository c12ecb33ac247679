import CodeSurvey.Language.Family
import CodeSurvey.Language.Name

set_option autoImplicit false

namespace CodeSurvey

open Text Pattern

namespace Import

def isQuote (c : Char) : Bool :=
  c == '\'' || c == '"'

def isQuoted (c : Char) : Bool :=
  !isQuote c && c != '\n'

def quoted : Pattern :=
  .all [.one isQuote, .part 1 (.many1 isQuoted), .one isQuote]

def isGap (c : Char) : Bool :=
  c == ' ' || c == '\t'

/-- The first captured parts of all matches, trimmed; empty parts are passed over. -/
def captured (p : Pattern) (text : List Char) : List (List Char) :=
  ((p.scan text).filter fun found => !(found.part 1).isEmpty).map fun found => trim (found.part 1)

/-- Characters between `import` and `from`. -/
def isClause (c : Char) : Bool :=
  isWord c || isBlank c || ['$', '*', '\x7b', '\x7d', ','].contains c

/-- `import ... from "x"` and `import "x"`. -/
def statement : Pattern :=
  .all [.edge, .text "import", blanks1,
    .optional (.all [.many isClause, blanks1, .text "from", blanks1]), quoted]

/-- `import("x")` and `require("x")`. -/
def call (word : String) : Pattern :=
  .all [.edge, .text word, blanks, .char '(', blanks, quoted, blanks, .char ')']

def isDotted (c : Char) : Bool :=
  isWord c || c == '.'

/-- `from x import`, with the dots of a relative module. -/
def fromModule : Pattern :=
  .all [.lineStart, .many isGap, .text "from", .many1 isGap,
    .part 1 (.alt (.seq (.many1 (· == '.')) (.many isDotted)) (.many1 isDotted)),
    .many1 isGap, .text "import", .edge]

def aliased : Pattern :=
  .seq (.many1 isDotted)
    (.optional (.all [.many1 isGap, .text "as", .many1 isGap, .many1 isWord]))

/-- `import x, y as z`. -/
def moduleList : Pattern :=
  .all [.lineStart, .many isGap, .text "import", .many1 isGap,
    .part 1 (.seq aliased (.star (.all [.many isGap, .char ',', .many isGap, aliased])))]

def listed (text : List Char) : List (List Char) :=
  (moduleList.scan text).flatMap fun found =>
    (Name.items (found.part 1)).map fun item => (words item).headD []

/-- `import x.y;`, `import static x.y.*;`. -/
def qualified : Pattern :=
  .all [.lineStart, .many isGap, .text "import", .many1 isGap,
    .optional (.seq (.text "static") (.many1 isGap)),
    .part 1 (.seq (.many1 isDotted) (.optional (.text ".*"))), .many isGap, .char ';']

def isNamespaced (c : Char) : Bool :=
  isWord c || c == '\\'

/-- `use X\Y`. -/
def used : Pattern :=
  .all [.lineStart, .many isGap, .text "use", .many1 isGap, .part 1 (.many1 isNamespaced)]

/-- `require "x"`, `include_once("x")`. -/
def included : Pattern :=
  .all [.edge, .any [.text "require", .text "include"], .optional (.text "_once"), blanks,
    .optional (.char '('), blanks, quoted]

/-- The specifiers that each rule of a family finds, one rule after another. A comment or a string
that looks like an import counts as one. -/
def found : Family → List Char → List (List Char)
  | .ecmascript, text =>
    captured statement text ++ captured (call "import") text ++ captured (call "require") text
  | .python, text => captured fromModule text ++ listed text
  | .java, text => captured qualified text
  | .php, text => captured used text ++ captured included text

end Import

/-- The non-empty texts of a list, each at its first place only. -/
def distinct (texts : List (List Char)) : List String :=
  ((texts.filter (!·.isEmpty)).eraseDups).map String.ofList

def Family.imports (family : Family) (text : List Char) : List String :=
  distinct (Import.found family text)

end CodeSurvey
