import CodeSurvey.Survey
import CodeSurvey.Value.Json

set_option autoImplicit false

namespace CodeSurvey.Document

/-- What may not be in a report. -/
inductive Fault where
  | blockLine
  | similarity
  | deadKind
  | deadLine
  | redundantKind
  | redundantLine
  | functionLine
  | complexity
  deriving DecidableEq, Repr

def Fault.message : Fault → String
  | .blockLine => "a duplicate block has no line"
  | .similarity => "a similarity is not between 0 and 1"
  | .deadKind => "dead code is of an unknown kind"
  | .deadLine => "dead code has no line"
  | .redundantKind => "redundant code is of an unknown kind"
  | .redundantLine => "redundant code has no line"
  | .functionLine => "a complex function has no line"
  | .complexity => "a complexity is below 1"

def deadKinds : List String := ["import", "function", "variable", "class"]

def redundantKinds : List String :=
  ["duplicate_logic", "unnecessary_complexity", "unused_code", "redundant_condition"]

/-- Whether the lines of a window are counted from one. -/
def blockFits (block : Clone.Block) : Bool :=
  decide (1 ≤ block.startLine) && decide (1 ≤ block.endLine)

/-- The requirements of a report, each with the fault of breaking it. -/
def requirements {σ : Type} (scale : Clone.Scale σ) (quality : Quality σ) : List (Bool × Fault) :=
  [(quality.duplicates.all fun d => blockFits d.left && blockFits d.right, .blockLine),
   (quality.duplicates.all fun d => scale.inRange d.similarity, .similarity),
   (quality.dead.all fun d => deadKinds.contains d.kind, .deadKind),
   (quality.dead.all fun d => decide (1 ≤ d.line), .deadLine),
   (quality.redundant.all fun r => redundantKinds.contains r.kind, .redundantKind),
   (quality.redundant.all fun r => decide (1 ≤ r.line), .redundantLine),
   (quality.complex.all fun c => decide (1 ≤ c.line), .functionLine),
   (quality.complex.all fun c => decide (1 ≤ c.complexity), .complexity)]

def fault? {σ : Type} (scale : Clone.Scale σ) (quality : Quality σ) : Option Fault :=
  ((requirements scale quality).find? fun (holds, _) => !holds).map (·.2)

/-- How often each name occurs, in the order of first occurrence. -/
def counts (names : List String) : List (String × Nat) :=
  names.eraseDups.map fun name => (name, names.count name)

def countsValue (names : List String) : Value :=
  .object ((counts names).map fun (name, count) => (name, .nat count))

def summary {σ : Type} (survey : Survey σ) : Value :=
  .object [("filesAnalyzed", .nat survey.filesAnalyzed), ("totalIssues", .nat survey.issues.length),
    ("bySeverity", countsValue (survey.issues.map (·.severity.name))),
    ("byCategory", countsValue (survey.issues.map (·.category.name)))]

def issue (i : Issue) : Value :=
  .object [("category", .text i.category.name), ("severity", .text i.severity.name),
    ("message", .text i.message), ("files", .texts i.files),
    ("line", i.line.elim .null .int), ("suggestion", .text i.suggestion)]

def node (n : FileNode) : Value :=
  .object [("path", .text n.path), ("imports", .texts n.imports), ("exports", .texts n.exports),
    ("dependencies", .texts n.dependencies), ("dependents", .texts n.dependents),
    ("missing", .texts n.missing)]

def graph (g : DependencyGraph) : Value :=
  .object [("nodes", .object (g.nodes.map fun n => (n.path, node n))),
    ("cycles", .list (g.cycles.map .texts)),
    ("missing", .list (g.missing.map fun m =>
      .object [("file", .text m.file), ("missingSpecifier", .text m.specifier)])),
    ("unused", .texts g.unused)]

def dependencyIssue (i : DependencyIssue) : Value :=
  .object [("type", .text i.category.name), ("severity", .text i.severity.name),
    ("message", .text i.message), ("files", .texts i.files)]

def block (b : Clone.Block) : Value :=
  .object [("content", .text (String.ofList b.content)), ("startLine", .int b.startLine),
    ("endLine", .int b.endLine), ("file", .text b.file)]

def duplicate {σ : Type} (scale : Clone.Scale σ) (d : Clone.Duplicate σ) : Value :=
  .object [("blocks", .list [block d.left, block d.right]), ("similarity", scale.value d.similarity),
    ("lines", .int d.lines)]

def deadCode (d : DeadCode) : Value :=
  .object [("type", .text d.kind), ("name", .text d.name), ("file", .text d.file),
    ("line", .int d.line), ("reason", .text d.reason)]

def redundant (r : Redundant) : Value :=
  .object [("type", .text r.kind), ("file", .text r.file), ("line", .int r.line),
    ("message", .text r.message), ("suggestion", .text r.suggestion)]

def complex (c : ComplexFunction) : Value :=
  .object [("file", .text c.file), ("function", .text c.function), ("line", .int c.line),
    ("complexity", .int c.complexity)]

def quality {σ : Type} (scale : Clone.Scale σ) (q : Quality σ) : Value :=
  .object [("duplicates", .list (q.duplicates.map (duplicate scale))),
    ("deadCode", .list (q.dead.map deadCode)),
    ("redundantCode", .list (q.redundant.map redundant)),
    ("complexityIssues", .list (q.complex.map complex)), ("truncated", .bool q.truncated)]

/-- The document of a survey. One whose numbers or words are outside of what a report may hold has
none. -/
def ofSurvey {σ : Type} (scale : Clone.Scale σ) (survey : Survey σ) : Except Fault Value :=
  match fault? scale survey.quality with
  | some fault => .error fault
  | none => .ok <| .object [("summary", summary survey),
      ("issues", .list (survey.issues.map issue)), ("dependencyGraph", graph survey.graph),
      ("dependencyIssues", .list (survey.dependencyIssues.map dependencyIssue)),
      ("quality", quality scale survey.quality), ("digest", .text survey.digest),
      ("truncated", .bool survey.truncated), ("budgetEvents", .texts survey.events)]

end CodeSurvey.Document
