import CodeSurvey.Language.Import

set_option autoImplicit false

namespace CodeSurvey

open Text Pattern

namespace Export

/-- A word that may stand in front of a declaration, with the blanks behind it. -/
def modifier (word : String) : Pattern :=
  .optional (.seq (.text word) blanks1)

/-- `export const x`, `export default async function x` and the like. -/
def declaration : Pattern :=
  .all [.edge, .text "export", blanks1, modifier "default", modifier "declare", modifier "abstract",
    modifier "async",
    .any [.text "const", .text "let", .text "var",
      .all [.text "function", blanks, .optional (.char '*')],
      .text "class", .text "interface", .text "type", .text "enum"],
    blanks1, .part 1 Name.pattern]

/-- A list of local names in braces that is not taken from another file. -/
def localList : Pattern :=
  .all [.edge, .text "export", blanks, .char '\x7b', .part 1 (.many (· != '\x7d')), .char '\x7d',
    .absent (.seq blanks (.text "from"))]

def localNames (text : List Char) : List (List Char) :=
  (localList.scan text).flatMap fun found =>
    ((Name.items (found.part 1)).map Name.localName).filter Name.isName

def defaultExport : Pattern :=
  .all [.edge, .text "export", blanks1, .part 1 (.text "default"), .edge]

/-- `export ... from "x"`. -/
def forwarded : Pattern :=
  .all [.edge, .text "export", blanks1, .few (· != '\n'), blanks, .text "from", blanks1,
    Import.quoted]

/-- What each rule finds, one rule after another. A forwarded file is marked. -/
def found (text : List Char) : List (List Char) :=
  Import.captured declaration text ++ localNames text ++ Import.captured defaultExport text ++
    (Import.captured forwarded text).map ("re-export:".toList ++ ·)

end Export

/-- The exported names of a text, without repeats. Only one family has explicit exports. -/
def Family.exports : Family → List Char → List String
  | .ecmascript, text => distinct (Export.found text)
  | _, _ => []

end CodeSurvey
