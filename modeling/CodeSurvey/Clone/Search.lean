import CodeSurvey.Budget
import CodeSurvey.Clone.Block
import CodeSurvey.Clone.Similarity

set_option autoImplicit false

namespace CodeSurvey.Clone

/-- Two similar windows, with the number of lines of each. -/
structure Duplicate (σ : Type) where
  left : Block
  right : Block
  similarity : σ
  lines : Int

/-- Why a search left something out. -/
inductive Stop where
  | windows (file : String) (count : Nat) (limit : Int)
  | comparisons (limit : Int)
  | time (limit : Seconds)
  | duplicates (limit : Int)

namespace Stop

def text : Stop → String
  | .windows file count limit => s!"{file}: {count} windows capped at {limit}"
  | .comparisons limit => s!"comparison budget of {limit} reached"
  | .time limit => s!"time budget of {limit.text}s reached"
  | .duplicates limit => s!"duplicate cap of {limit} reached"

def logText : Stop → String
  | .windows file count limit => text (.windows file count limit)
  | other => "Duplicate detection truncated: " ++ other.text

end Stop

structure Result (σ : Type) where
  findings : List (Duplicate σ)
  truncated : Bool
  reasons : List Stop
  comparisons : Nat

def Result.stop {σ : Type} (result : Result σ) (reason : Stop) : Result σ :=
  { result with truncated := true, reasons := result.reasons ++ [reason] }

/-- Whether two windows can be more similar than a threshold: no share is above that of the shorter
length in the longer. -/
def isCandidate {σ τ : Type} (m : Measure σ τ) (threshold : τ) (a b : Block) : Bool :=
  !m.tooShort threshold (min a.content.length b.content.length)
    (max a.content.length b.content.length)

def candidatesOf {σ τ : Type} (m : Measure σ τ) (threshold : τ) (left right : List Block) :
    List (Block × Block) :=
  left.flatMap fun a => (right.filter (isCandidate m threshold a)).map fun b => (a, b)

/-- The pairs of windows of all files that are compared, earlier files first. -/
def candidates {σ τ : Type} (m : Measure σ τ) (threshold : τ) :
    List (List Block) → List (Block × Block)
  | [] => []
  | first :: rest =>
    (rest.flatMap fun other => candidatesOf m threshold first other) ++ candidates m threshold rest

/-- Compares pairs one after another. The clock is read for every thousandth comparison; `readings`
counts how often it has been read. -/
def compare {σ τ : Type} (m : Measure σ τ) (threshold : τ) (window : Int) (budget : Budget)
    (clock : Clock) : List (Block × Block) → Nat → Result σ → Result σ
  | [], _, result => result
  | (a, b) :: rest, readings, result =>
    let timed := result.comparisons % 1000 = 0
    if budget.maxComparisons ≤ result.comparisons then
      result.stop (.comparisons budget.maxComparisons)
    else if timed ∧ budget.time.exceededBy (clock readings - clock 0) then
      result.stop (.time budget.time)
    else
      let readings := if timed then readings + 1 else readings
      let score := similarity m a.content b.content
      let counted := { result with comparisons := result.comparisons + 1 }
      if m.above score threshold then
        let found := { counted with findings := counted.findings ++ [⟨a, b, score, window⟩] }
        -- Looked at behind a finding, so that a limit of zero lets one through.
        if budget.maxDuplicates ≤ found.findings.length then
          found.stop (.duplicates budget.maxDuplicates)
        else compare m threshold window budget clock rest readings found
      else compare m threshold window budget clock rest readings counted

/-- The windows of a file that are looked at, and the reason if some are not. -/
def cappedBlocks (budget : Budget) (window minChars : Int) (file : SourceFile) :
    List Block × Option Stop :=
  let all := blocks file window minChars
  if budget.maxWindows < all.length then
    (capped budget.maxWindows all, some (.windows file.path all.length budget.maxWindows))
  else (all, none)

/-- The duplicate windows of files. Pairs whose lengths differ too much are passed over; the others
are compared one after another until a limit of the budget is reached. -/
def search {σ τ : Type} (m : Measure σ τ) (threshold : τ) (window minChars : Int) (budget : Budget)
    (clock : Clock) (files : List SourceFile) : Result σ :=
  let looked := files.map (cappedBlocks budget window minChars)
  let reasons := looked.filterMap (·.2)
  compare m threshold window budget clock (candidates m threshold (looked.map (·.1))) 1
    ⟨[], !reasons.isEmpty, reasons, 0⟩

end CodeSurvey.Clone
