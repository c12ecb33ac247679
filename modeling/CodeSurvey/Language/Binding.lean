import CodeSurvey.Language.Import
import CodeSurvey.Text.Identifier

set_option autoImplicit false

namespace CodeSurvey

open Text Pattern

namespace Binding

/-- `import clause from "`. -/
def clauseLine : Pattern :=
  .all [.textStart, blanks, .text "import", blanks1, .optional (.seq (.text "type") blanks1),
    .part 1 (.few1 (· != '\n')), blanks1, .text "from", blanks1, .one Import.isQuote]

def braced : Pattern :=
  .all [.char '\x7b', .part 1 (.many (· != '\x7d')), .char '\x7d']

/-- `* as x`. -/
def namespaced : Pattern :=
  .all [.char '*', blanks, .text "as", blanks1, .part 1 Name.pattern]

/-- An item of a braced list without the word that marks it as a type. -/
def withoutType (item : List Char) : List Char :=
  if "type ".toList.isPrefixOf item then item.drop 5 else item

/-- The names of a clause: those in braces, the namespace, then the name that is left. -/
def ofClause (clause : List Char) : List (List Char) :=
  let braces := braced.search clause
  let inBraces := braces.elim [] fun found =>
    ((Name.items (found.part 1)).map fun item => Name.localName (withoutType item)).filter Name.isName
  let clause := braces.elim clause fun found => found.cutFrom clause
  let star := namespaced.search clause
  let ofStar := star.elim [] fun found => [found.part 1]
  let clause := star.elim clause fun found => found.cutFrom clause
  let left := trim (trimOf (· == ',') (trim clause))
  inBraces ++ ofStar ++ if Name.isName left then [left] else []

/-- `from x import names`. -/
def fromLine : Pattern :=
  .all [.textStart, blanks, .text "from", blanks1, .many1 (!isBlank ·), blanks1, .text "import",
    blanks1, .part 1 (.many1 (· != '\n')), .textEnd]

/-- `import modules`. -/
def importLine : Pattern :=
  .all [.textStart, blanks, .text "import", blanks1, .part 1 (.many1 (· != '\n')), .textEnd]

/-- The names of a module import; a comment at the end of the line is left out. -/
def ofModules (line : List Char) : List (List Char) :=
  let code := line.takeWhile (· ≠ '#')
  match fromLine.matchStart code with
  | some found => ((Name.items (found.part 1)).map Name.localName).filter isIdentifier
  | none =>
    match importLine.matchStart code with
    | some found => ((Name.items (found.part 1)).map Name.localModule).filter isIdentifier
    | none => []

/-- `import x.y;`. -/
def qualifiedLine : Pattern :=
  .all [.textStart, blanks, .text "import", blanks1, .optional (.seq (.text "static") blanks1),
    .part 1 (.many1 Import.isDotted), blanks, .char ';']

/-- `use X\Y as Z`. -/
def usedLine : Pattern :=
  .all [.textStart, blanks, .text "use", blanks1, .part 1 (.many1 Import.isNamespaced),
    .optional (.all [blanks1, .text "as", blanks1, .part 2 (.many1 isWord)])]

end Binding

/-- The names that an import on a line introduces. The last component of a path may be empty. -/
def Family.bindings : Family → List Char → List (List Char)
  | .ecmascript, line =>
    (Binding.clauseLine.matchStart line).elim [] fun found => Binding.ofClause (found.part 1)
  | .python, line => Binding.ofModules line
  | .java, line =>
    (Binding.qualifiedLine.matchStart line).elim [] fun found => [afterLast '.' (found.part 1)]
  | .php, line =>
    (Binding.usedLine.matchStart line).elim [] fun found =>
      [(found.part? 2).getD (afterLast '\\' (found.part 1))]

end CodeSurvey
