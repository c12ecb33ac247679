import CodeSurvey.Cap
import CodeSurvey.Report.Issue

set_option autoImplicit false

namespace CodeSurvey.Digest

/-- How many findings of each kind are listed. -/
structure Limits where
  duplicates : Int
  dead : Int
  redundant : Int
  complex : Int

def Limits.ofRules (rules : Value) : Except RuleFault Limits := do
  let duplicates ← Rules.integer rules "digest" "max_duplicates" 5
  let dead ← Rules.integer rules "digest" "max_dead_code" 10
  let redundant ← Rules.integer rules "digest" "max_redundant" 10
  let complex ← Rules.integer rules "digest" "max_complexity" 5
  return ⟨duplicates, dead, redundant, complex⟩

/-- A file with the numbers of its neighbours in the graph. -/
def fileLine (graph : DependencyGraph) (file : SourceFile) : String :=
  let part (label : String) (count : Nat) : String :=
    if count = 0 then "" else s!" ({label}: {count})"
  let node := graph.nodes.get? file.path
  s!"  - {file.path}" ++ part "imports" (node.elim 0 (·.dependencies.length)) ++
    part "used by" (node.elim 0 (·.dependents.length))

def dependencyLines (issues : List DependencyIssue) : List String :=
  if issues.isEmpty then []
  else
    ["", "DEPENDENCY ISSUES DETECTED:"] ++ issues.flatMap fun issue =>
      [s!"- {issue.category.name.toUpper}: {issue.message}",
       s!"  Severity: {issue.severity.name}",
       "  Affected Files: " ++ ", ".intercalate issue.files]

def qualityLines {σ : Type} (scale : Clone.Scale σ) (limits : Limits) (quality : Quality σ) :
    List String :=
  ["", "CODE QUALITY ISSUES DETECTED:", "",
    s!"DUPLICATE CODE ({quality.duplicates.length} instances):"] ++
  ((capped limits.duplicates quality.duplicates).flatMap fun d =>
    [s!"- {scale.percent d.similarity}% similar code found in:",
     "  " ++ Issue.blockText d.left, "  " ++ Issue.blockText d.right]) ++
  ["", s!"DEAD CODE ({quality.dead.length} instances):"] ++
  ((capped limits.dead quality.dead).map fun d =>
    s!"- {d.kind} \"{d.name}\" in {d.file}:{d.line} - {d.reason}") ++
  ["", s!"REDUNDANT CODE ({quality.redundant.length} instances):"] ++
  ((capped limits.redundant quality.redundant).map fun r =>
    s!"- {r.file}:{r.line} - {r.message}") ++
  ["", s!"HIGH COMPLEXITY ({quality.complex.length} functions):"] ++
  ((capped limits.complex quality.complex).map fun c =>
    s!"- {c.function} in {c.file}:{c.line} (complexity: {c.complexity})") ++
  (if quality.truncated then
    ["", "NOTE: duplicate detection stopped early (" ++ "; ".intercalate quality.reasons ++ ")"]
  else [])

def structureLines (files : List SourceFile) (graph : DependencyGraph)
    (issues : List DependencyIssue) : List String :=
  let entries := graph.entryPoints
  ["PROJECT STRUCTURE:", s!"Total Files: {files.length}",
    s!"Total Lines: {(files.flatMap (·.lines)).length}"] ++
  (if entries.isEmpty then [] else ["Entry Points: " ++ ", ".intercalate entries]) ++
  ["", "FILES IN PROJECT:"] ++ files.map (fileLine graph) ++ dependencyLines issues

/-- The digest of a file set; without findings in the files if there are none to tell. -/
def text {σ : Type} (scale : Clone.Scale σ) (files : List SourceFile) (graph : DependencyGraph)
    (issues : List DependencyIssue) (quality : Option (Quality σ)) (rules : Value) :
    Except RuleFault String :=
  let first := structureLines files graph issues
  match quality with
  | none => .ok ("\n".intercalate first)
  | some quality => (Limits.ofRules rules).map fun limits =>
      "\n".intercalate (first ++ qualityLines scale limits quality)

end CodeSurvey.Digest
