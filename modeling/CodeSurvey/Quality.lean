import CodeSurvey.Clone.Search
import CodeSurvey.Finding.Complex
import CodeSurvey.Finding.DeadCode
import CodeSurvey.Finding.Redundancy
import CodeSurvey.Graph.Analysis
import CodeSurvey.Log.Trace
import CodeSurvey.Rules.Basic

set_option autoImplicit false

namespace CodeSurvey

open Log

structure Quality (σ : Type) where
  duplicates : List (Clone.Duplicate σ) := []
  dead : List DeadCode := []
  redundant : List Redundant := []
  complex : List ComplexFunction := []
  truncated : Bool := false
  reasons : List String := []

namespace Quality

def logger : String := "crossfile.analysis.quality"

/-- The names that a file exports by the graph. -/
def exportsOf (graph : DependencyGraph) (file : SourceFile) : List String :=
  ((graph.nodes.get? file.path).map (·.exports)).getD []

/-- The findings in single files, in the order of the files. -/
def scanFiles {σ : Type} (files : List SourceFile) (graph : DependencyGraph) (warnAt : Int) :
    Quality σ :=
  { dead := files.flatMap fun file => DeadCode.detect file (exportsOf graph file)
    redundant := files.flatMap Redundant.detect
    complex := files.flatMap fun file => ComplexFunction.detect file warnAt }

def searchClones {σ : Type} (m : Clone.Measure σ Float) (clock : Clock) (files : List SourceFile)
    (rules : Value) (budget : Budget) : Trace RuleFault (Clone.Result σ) := do
  let window ← .ofExcept (Rules.window rules)
  let minChars ← .ofExcept (Rules.minChars rules)
  let threshold ← .ofExcept (Rules.threshold rules)
  let found := Clone.search m threshold window minChars budget clock files
  ⟨found.reasons.map fun reason =>
    ⟨.warning, "crossfile.analysis.detectors.duplication", reason.logText⟩, .ok found⟩

def analyze {σ : Type} (m : Clone.Measure σ Float) (clock : Clock) (files : List SourceFile)
    (graph : DependencyGraph) (rules : Value) (budget : Budget) : Trace RuleFault (Quality σ) := do
  let warnAt ← .ofExcept (Rules.warnAt rules)
  let single : Quality σ ← Trace.phase RuleFault.message logger "Per-file quality scan" .debug
    (pure (scanFiles files graph warnAt))
  let found ← Trace.phase RuleFault.message logger "Cross-file duplicate detection" .debug
    (searchClones m clock files rules budget)
  Trace.note .debug logger <|
    s!"Quality: {found.findings.length} duplicates ({found.comparisons} comparisons), " ++
    s!"{single.dead.length} dead, {single.redundant.length} redundant, " ++
    s!"{single.complex.length} complex"
  return { single with
    duplicates := found.findings
    truncated := found.truncated
    reasons := found.reasons.map (·.text) }

end Quality

end CodeSurvey
