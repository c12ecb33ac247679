set_option autoImplicit false

namespace CodeSurvey

inductive Severity where
  | error
  | warning
  | info
  deriving DecidableEq, Repr

inductive Category where
  | circular
  | missing
  | unused
  | duplicate
  | deadCode
  | redundant
  | complexity
  deriving DecidableEq, Repr

namespace Severity

def name : Severity → String
  | .error => "error"
  | .warning => "warning"
  | .info => "info"

def every : List Severity :=
  [.error, .warning, .info]

def ofName? (name : String) : Option Severity :=
  every.find? (·.name == name)

def rank : Severity → Nat
  | .error => 0
  | .warning => 1
  | .info => 2

/-- The place of a severity given by name; an unknown name comes last. -/
def rankOfName (name : String) : Nat :=
  (ofName? name).elim every.length rank

end Severity

namespace Category

def name : Category → String
  | .circular => "circular"
  | .missing => "missing"
  | .unused => "unused"
  | .duplicate => "duplicate"
  | .deadCode => "dead_code"
  | .redundant => "redundant"
  | .complexity => "complexity"

def every : List Category :=
  [.circular, .missing, .unused, .duplicate, .deadCode, .redundant, .complexity]

def ofName? (name : String) : Option Category :=
  every.find? (·.name == name)

/-- How grave issues of a category are as a rule. -/
def severity : Category → Severity
  | .circular | .missing => .error
  | .unused | .duplicate | .deadCode | .complexity => .warning
  | .redundant => .info

def explanation : Category → String
  | .circular => "Import cycles couple modules together and make load order fragile."
  | .missing => "A relative import points at a file that is not part of the project."
  | .unused => "Nothing imports this file and it is not a recognised entry point."
  | .duplicate =>
    "Duplicated logic leads to divergence and bugs, increasing maintenance effort."
  | .deadCode => "Unused declarations add noise and hide what the module really does."
  | .redundant => "The pattern does nothing useful at runtime or reads more complex than it is."
  | .complexity =>
    "High cyclomatic complexity makes code harder to test and maintain and hides defects."

/-- What to do about an issue. A duplicate names the other file, dead code its kind. -/
def fix (category : Category) (otherFile : Option String) (kind : String) : String :=
  match category with
  | .circular =>
    "Extract the shared pieces into a module both sides can import, or invert one dependency."
  | .missing => "Create the missing file or fix the import path."
  | .unused => "Delete the file or import it from where it is meant to be used."
  | .duplicate =>
    let tail := otherFile.elim "" fun file => s!" (see also {file})"
    s!"Extract common code into a shared function or module{tail}."
  | .deadCode => s!"Remove the unused {kind} or export it if other files need it."
  | .complexity => "Extract helpers, return early and name complex boolean expressions."
  | .redundant => "Simplify or remove the flagged code."

/-- What to do about an issue of a category without further details. -/
def plainFix (category : Category) : String :=
  category.fix none "declaration"

end Category

/-- How grave an issue is: a complexity that reaches a threshold is an error, all else follows the
category. An unknown category is only informative. -/
def gradeIssue (category : Option Category) (complexity : Option Int) (errorAt : Int) : Severity :=
  if category = some .complexity ∧ complexity.any (errorAt ≤ ·) then .error
  else category.elim .info Category.severity

def explainIssue (category : Option Category) : String :=
  category.elim "Quality issue." Category.explanation

def fixIssue (category : Option Category) (otherFile : Option String) (kind : String) : String :=
  (category.getD .redundant).fix otherFile kind

end CodeSurvey
