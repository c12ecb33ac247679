import CodeSurvey.Language.Binding
import CodeSurvey.Language.Declaration
import CodeSurvey.Language.Export
import CodeSurvey.Source.Body

set_option autoImplicit false

namespace CodeSurvey.Source

open Text

/-- A function with its first and last line and its body. -/
structure Function where
  name : String
  line : Nat
  endLine : Nat
  body : String

structure Declared where
  name : String
  line : Nat

/-- The names that rules find on a line, one rule after another. -/
def ruleNames (rules : List LineRule) (line : List Char) : List (List Char) :=
  rules.filterMap fun rule => rule.name? line

/-- The functions that begin on the lines from `start` on. -/
def functionsFrom (family : Family) (lines : List (List Char)) :
    List (List Char) → Nat → List Function
  | [], _ => []
  | line :: rest, start =>
    let names := (ruleNames family.functionRules line).eraseDups
    let here :=
      if names.isEmpty then []
      else
        let (text, last) := body family.bodyStyle lines start
        names.map fun name => ⟨String.ofList name, start + 1, last + 1, String.ofList text⟩
    here ++ functionsFrom family lines rest (start + 1)

/-- The names that `find` gives for each line, with the line's number. -/
def declaredBy (find : List Char → List (List Char)) (content : List Char) : List Declared :=
  ((lines content).zipIdx 1).flatMap fun (line, number) =>
    (find line).map fun name => ⟨String.ofList name, number⟩

/-- The functions of a text. A text in an unknown language declares nothing. -/
def functions (family : Option Family) (content : List Char) : List Function :=
  family.elim [] fun family => functionsFrom family (lines content) (lines content) 0

def variablesOf (family : Option Family) (content : List Char) : List Declared :=
  family.elim [] fun family => declaredBy (ruleNames family.variableRules) content

def classes (family : Option Family) (content : List Char) : List Declared :=
  family.elim [] fun family => declaredBy (ruleNames family.classRules) content

def bindings (family : Option Family) (content : List Char) : List Declared :=
  family.elim [] fun family => declaredBy family.bindings content

def imports (family : Option Family) (content : List Char) : List String :=
  family.elim [] fun family => family.imports content

def exports (family : Option Family) (content : List Char) : List String :=
  family.elim [] fun family => family.exports content

end CodeSurvey.Source
