import CodeSurvey.Report.Digest

set_option autoImplicit false

namespace CodeSurvey

open Log

structure Survey (σ : Type) where
  graph : DependencyGraph
  quality : Quality σ
  dependencyIssues : List DependencyIssue
  issues : List Issue
  digest : String
  truncated : Bool
  events : List String
  filesAnalyzed : Nat

/-- Why there is no survey. -/
inductive Refusal (σ : Type) where
  | rule (fault : RuleFault)
  | input (fault : InputFault)
  /-- A budget was reached in strict mode; the limit is told if it was that of files. -/
  | budget (reason : String) (limit : Option Int) (found : Survey σ)

def Refusal.message {σ : Type} : Refusal σ → String
  | .rule fault => fault.message
  | .input fault => fault.message
  | .budget reason _ _ => reason

/-- The literal form of a refusal by a budget. -/
def Refusal.budgetLiteral (reason : String) (limit : Option Int) : String :=
  s!"BudgetExceeded(reason={Literal.quote reason}, limit={(limit.elim Value.null .int).literal})"

namespace Survey

def logger : String := "crossfile.analysis.runner"

/-- The files that the budget allows, and what it says if they are not all. -/
def cutFiles (budget : Budget) (files : List SourceFile) : List SourceFile × Option String :=
  if budget.maxFiles < files.length then
    (capped budget.maxFiles files,
      some (s!"file budget of {budget.maxFiles} reached, " ++
        s!"{(files.length : Int) - budget.maxFiles} files skipped"))
  else (files, none)

/-- Checks that what the budget says of files that are left out can be written. -/
def checkSkipped (budget : Budget) (files : List SourceFile) : Except RuleFault Unit :=
  if budget.maxFiles < files.length ∧ !Number.isWritable (files.length - budget.maxFiles) then
    .error .unwritable
  else .ok ()

def buildGraph {ε : Type} (files : List SourceFile) : Trace ε DependencyGraph := do
  let graph := DependencyGraph.ofFiles files
  Trace.note .debug "crossfile.analysis.dependency_graph"
    s!"Built {graph.nodes.length} nodes, {graph.nodes.edges.length} edges"
  Trace.note .debug "crossfile.analysis.graph_analyzer" <|
    s!"Graph analysis: {graph.cycles.length} cycles, {graph.missing.length} missing, " ++
    s!"{graph.unused.length} unused"
  return graph

/-- The survey of files within a budget, by rules that are complete. -/
def ofFiles {σ : Type} (m : Clone.Measure σ Float) (scale : Clone.Scale σ) (clock : Clock)
    (rules : Value) (budget : Budget) (files : List SourceFile) : Trace RuleFault (Survey σ) := do
  -- A number of files with too many digits fails before anything is logged.
  .ofExcept (checkSkipped budget files)
  let (files, event) := cutFiles budget files
  ⟨event.toList.map fun reason => ⟨.warning, logger, "Analysis truncated: " ++ reason⟩, .ok ()⟩
  Trace.note .info logger s!"Analyzing {files.length} files"
  let graph ← Trace.phase RuleFault.message logger "Dependency analysis" .debug (buildGraph files)
  let quality ← Trace.phase RuleFault.message logger "Quality analysis" .debug
    (Quality.analyze m clock files graph rules budget)
  let events := event.toList ++ (if quality.truncated then quality.reasons else [])
  let errorAt ← .ofExcept (Rules.errorAt rules)
  let issues := Issue.assemble scale errorAt graph.issues quality
  let digest ← .ofExcept (Digest.text scale files graph graph.issues (some quality) rules)
  let truncated := !events.isEmpty
  Trace.note .info logger <|
    s!"Analysis done: {graph.nodes.length} nodes, {issues.length} issues" ++
    (if truncated then " (truncated)" else "")
  return ⟨graph, quality, graph.issues, issues, digest, truncated, events, files.length⟩

/-- Refuses a survey that a budget cut short, together with what was found. -/
def refuseTruncated {σ : Type} (budget : Budget) (given : List SourceFile) (survey : Survey σ) :
    Except (Refusal σ) (Survey σ) :=
  match survey.events with
  | [] => .ok survey
  | reason :: _ => .error (.budget reason
      (if budget.maxFiles < given.length then some budget.maxFiles else none) survey)

/-- The survey of a file collection. Rules are laid over the default ones and read first, then the
budget unless one is given, then the files. -/
def run {σ : Type} (m : Clone.Measure σ Float) (scale : Clone.Scale σ) (clock : Clock)
    (given : Value) (budget : Option Budget) (strict : Bool)
    (files : Except InputFault (List SourceFile)) : Trace (Refusal σ) (Survey σ) := do
  let merged ← .ofExcept ((Rules.merge Rules.defaults given).mapError .rule)
  let rules := Value.object merged
  let budget ← .ofExcept ((budget.elim (Rules.budget rules) .ok).mapError .rule)
  let files ← .ofExcept (files.mapError .input)
  let survey ← (ofFiles m scale clock rules budget files).mapFault .rule
  if strict then .ofExcept (refuseTruncated budget files survey) else return survey

end Survey

end CodeSurvey
