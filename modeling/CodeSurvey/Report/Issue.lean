import CodeSurvey.Quality

set_option autoImplicit false

namespace CodeSurvey

structure Issue where
  category : Category
  severity : Severity
  message : String
  files : List String
  line : Option Int
  suggestion : String

namespace Issue

def ofDependency (issue : DependencyIssue) : Issue :=
  ⟨issue.category, issue.severity, issue.message, issue.files, none, issue.category.plainFix⟩

def blockText (block : Clone.Block) : String :=
  s!"{block.file} (lines {block.startLine}-{block.endLine})"

def ofDuplicate {σ : Type} (scale : Clone.Scale σ) (d : Clone.Duplicate σ) : Issue :=
  { category := .duplicate
    severity := Category.duplicate.severity
    message := s!"{scale.percent d.similarity}% similar code in {blockText d.left} and " ++
      blockText d.right
    files := [d.left.file, d.right.file]
    line := some d.left.startLine
    suggestion := Category.duplicate.fix
      (if d.right.file.isEmpty then none else some d.right.file) "declaration" }

def ofDeadCode (d : DeadCode) : Issue :=
  { category := .deadCode
    severity := Category.deadCode.severity
    message := s!"Unused {d.kind} \"{d.name}\" in {d.file}: {d.reason}"
    files := [d.file]
    line := some d.line
    suggestion := Category.deadCode.fix none d.kind }

def ofRedundant (r : Redundant) : Issue :=
  { category := .redundant
    severity := Category.redundant.severity
    message := s!"{r.message} in {r.file}"
    files := [r.file]
    line := some r.line
    suggestion := r.suggestion }

def ofComplex (errorAt : Int) (c : ComplexFunction) : Issue :=
  { category := .complexity
    severity := gradeIssue (some .complexity) (some c.complexity) errorAt
    message :=
      s!"Function \"{c.function}\" in {c.file} has cyclomatic complexity {c.complexity}"
    files := [c.file]
    line := some c.line
    suggestion := Category.complexity.plainFix }

/-- All findings as issues, in order. -/
def flatten {σ : Type} (scale : Clone.Scale σ) (errorAt : Int) (graph : List DependencyIssue)
    (quality : Quality σ) : List Issue :=
  graph.map ofDependency ++ quality.duplicates.map (ofDuplicate scale) ++
    quality.dead.map ofDeadCode ++ quality.redundant.map ofRedundant ++
    quality.complex.map (ofComplex errorAt)

/-- All findings as issues, the gravest first. Within a severity the order is that of the
findings. -/
def assemble {σ : Type} (scale : Clone.Scale σ) (errorAt : Int) (graph : List DependencyIssue)
    (quality : Quality σ) : List Issue :=
  (flatten scale errorAt graph quality).mergeSort fun a b =>
    decide (a.severity.rank ≤ b.severity.rank)

/-- Where an issue is: its files, and the line if there is one. -/
def location (issue : Issue) : String :=
  let place := ", ".intercalate issue.files
  match issue.line with
  | some line => if line = 0 then place else s!"{place}:{line}"
  | none => place

end Issue

end CodeSurvey
