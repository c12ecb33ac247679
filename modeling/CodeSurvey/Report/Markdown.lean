import CodeSurvey.Graph.Metrics
import CodeSurvey.Survey

set_option autoImplicit false

namespace CodeSurvey.Markdown

def head : String :=
  "# Cross-file Analysis Report\n" ++
  "\n- [Summary](#summary)\n" ++
  "- [Top issues](#top-issues)\n" ++
  "- [Per-category](#per-category)\n" ++
  "- [Dependencies](#dependencies)\n"

/-- A text in a cell of a table: a bar is escaped, and a new line becomes a space. -/
def cell (text : String) : String :=
  String.ofList (text.toList.flatMap fun c =>
    if c = '|' then ['\\', '|'] else if c = '\n' then [' '] else [c])

def countOf (issues : List Issue) (severity : Severity) : Nat :=
  issues.countP fun issue => issue.severity == severity

def summary {σ : Type} (survey : Survey σ) : List String :=
  ["\n## Summary\n", s!"- Files analyzed: {survey.filesAnalyzed}\n",
    s!"- Errors: {countOf survey.issues .error}  |  Warnings: {countOf survey.issues .warning}" ++
    s!"  |  Info: {countOf survey.issues .info}\n"] ++
  (if survey.truncated then
    "- Analysis was truncated:\n" :: survey.events.map fun event => s!"  - {event}\n"
  else [])

def topIssues (issues : List Issue) (maxRows : Int) : List String :=
  "\n## Top issues\n" ::
  (if issues.isEmpty then ["- No issues found.\n"]
  else
    ["| Severity | Category | Location | Message |\n", "|---|---|---|---|\n"] ++
    (capped maxRows issues).map fun issue =>
      s!"| {issue.severity.name} | {issue.category.name} | {cell issue.location} | " ++
      s!"{cell issue.message} |\n")

def title (category : Category) : String :=
  let spaced := category.name.toList.map fun c => if c = '_' then ' ' else c
  match spaced with
  | first :: rest => String.ofList (first.toUpper :: rest)
  | [] => ""

/-- The issues of each category that has some; the categories with the most issues come first, and
those with equally many in the order of their names. -/
def groups (issues : List Issue) : List (Category × List Issue) :=
  let found := Category.every.filterMap fun category =>
    let members := issues.filter fun issue => issue.category == category
    if members.isEmpty then none else some (category, members)
  found.mergeSort fun a b =>
    decide (b.2.length < a.2.length) ||
      (a.2.length == b.2.length && decide (a.1.name ≤ b.1.name))

/-- One issue of a category, with what to do about it. -/
def issueLines (issue : Issue) : List String :=
  s!"- [{issue.severity.name}] {issue.message} ({issue.location})\n" ::
  (if issue.suggestion.isEmpty then [] else [s!"  - Fix: {issue.suggestion}\n"])

def perCategory (issues : List Issue) (limit : Int) : List String :=
  "\n## Per-category\n" ::
  (if issues.isEmpty then ["- No issues found.\n"]
  else
    (groups issues).flatMap fun (category, members) =>
      [s!"\n### {title category} ({members.length})\n", s!"_{category.explanation}_\n\n"] ++
      (capped limit members).flatMap issueLines)

def dependencies (graph : DependencyGraph) : List String :=
  let metrics := graph.nodes.toDigraph.metrics 5
  let edges := metrics.fanOut.foldl (fun sum counted => sum + counted.2) 0
  let list (counts : List (String × Nat)) : List String :=
    counts.map fun (path, count) => s!"  - {path}: {count}\n"
  ["\n## Dependencies\n", s!"- Nodes: {graph.nodes.length}\n",
    s!"- Edges: {edges}\n", "- Top fan-in:\n"] ++
  list metrics.topFanIn ++ ["- Top fan-out:\n"] ++ list metrics.topFanOut ++
  [s!"- Cycles detected: {graph.cycles.length}\n"] ++
  ((graph.cycles.take 5).map fun cycle => "  - " ++ " -> ".intercalate cycle ++ "\n") ++
  [s!"- Missing dependencies: {graph.missing.length}\n", s!"- Unused files: {graph.unused.length}\n"]

/-- A summary, the gravest issues as a table, the issues by category, and the numbers of the
dependency graph. -/
def text {σ : Type} (survey : Survey σ) (maxRows limit : Int) : String :=
  String.join (head :: summary survey ++ topIssues survey.issues maxRows ++
    perCategory survey.issues limit ++ dependencies survey.graph)

end CodeSurvey.Markdown
