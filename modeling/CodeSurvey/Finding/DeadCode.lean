import CodeSurvey.Source.Declarations
import CodeSurvey.Source.File
import CodeSurvey.Source.Token

set_option autoImplicit false

namespace CodeSurvey

structure DeadCode where
  kind : String
  name : String
  file : String
  line : Int
  reason : String

namespace DeadCode

open Source

/-- Names that the language itself uses. -/
def isReserved (family : Option Family) (name : String) : Bool :=
  family == some .python && ['_', '_'].isPrefixOf name.toList && ['_', '_'].isSuffixOf name.toList

def uses (found : List (List Char)) (name : String) : Nat :=
  found.count (bareName name.toList)

/-- The lines that have no import. -/
def plainLines (lines : List (List Char)) (imported : List Declared) : List (List Char) :=
  ((lines.zipIdx 1).filter fun (_, number) => !(imported.map (·.line)).contains number).map (·.1)

/-- Imported names that occur on no line without an import. -/
def deadImports (file : SourceFile) : List DeadCode :=
  let imported := bindings file.family file.content.toList
  let outside := tokens (plainLines file.lines imported)
  (imported.filter fun b => uses outside b.name == 0).map fun b =>
    ⟨"import", b.name, file.path, b.line, "Import is never used in this file"⟩

/-- Functions that are not exported and occur at most once. -/
def deadFunctions (file : SourceFile) (found : List (List Char)) (exported : List String)
    (functions : List Function) : List DeadCode :=
  (functions.filter fun f =>
    !isReserved file.family f.name && !exported.contains f.name && uses found f.name ≤ 1).map fun f =>
    ⟨"function", f.name, file.path, f.line, "Function is never called or exported"⟩

/-- Variables that occur exactly once and are no functions of their line. -/
def deadVariables (file : SourceFile) (found : List (List Char)) (functions : List Function) :
    List DeadCode :=
  -- Unlike for functions and classes, exports are not looked at.
  ((variablesOf file.family file.content.toList).filter fun v =>
    !(functions.any fun f => f.name == v.name && f.line == v.line) &&
      !isReserved file.family v.name && uses found v.name == 1).map fun v =>
    ⟨"variable", v.name, file.path, v.line, "Variable is declared but never used"⟩

def deadClasses (file : SourceFile) (found : List (List Char)) (exported : List String) :
    List DeadCode :=
  ((classes file.family file.content.toList).filter fun c =>
    !exported.contains c.name && uses found c.name ≤ 1).map fun c =>
    ⟨"class", c.name, file.path, c.line, "Class is never referenced or exported"⟩

/-- The dead code of a file, judged by identifier tokens: imports, functions, variables, classes. -/
def detect (file : SourceFile) (exported : List String) : List DeadCode :=
  let found := tokens file.lines
  let functions := functions file.family file.content.toList
  deadImports file ++ deadFunctions file found exported functions ++
    deadVariables file found functions ++ deadClasses file found exported

end DeadCode

end CodeSurvey
