import CodeSurvey.Proofs.Survey.InPlace
import CodeSurvey.Proofs.Survey.StrictMode

set_option autoImplicit false

namespace CodeSurvey

open Log

/-- Rules of which every setting can be read, those of the budget apart. -/
structure Rules.Readable (rules : Value) : Prop where
  warnAt : ∃ n, Rules.warnAt rules = .ok n
  errorAt : ∃ n, Rules.errorAt rules = .ok n
  window : ∃ n, Rules.window rules = .ok n
  minChars : ∃ n, Rules.minChars rules = .ok n
  threshold : ∃ x, Rules.threshold rules = .ok x
  digest : ∃ limits, Digest.Limits.ofRules rules = .ok limits

section Making

variable {σ : Type} {m : Clone.Measure σ Float} {scale : Clone.Scale σ} {clock : Clock}

theorem Quality.analyze_isOk_iff {files : List SourceFile} {graph : DependencyGraph} {rules : Value}
    {budget : Budget} : (∃ quality, (analyze m clock files graph rules budget).outcome = .ok quality) ↔
      (∃ n, Rules.warnAt rules = .ok n) ∧ (∃ n, Rules.window rules = .ok n) ∧
        (∃ n, Rules.minChars rules = .ok n) ∧ ∃ x, Rules.threshold rules = .ok x := by
  simp only [analyze, Trace.bind_eq_ok, Trace.outcome_phase, Trace.outcome_note, Trace.outcome_pure,
    searchClones_eq_ok]
  constructor
  · rintro ⟨quality, warnAt, warned, single, scanned, found,
      ⟨window, minChars, threshold, windowed, least, compared, -⟩, -⟩
    exact ⟨⟨warnAt, warned⟩, ⟨window, windowed⟩, ⟨minChars, least⟩, threshold, compared⟩
  · rintro ⟨⟨warnAt, warned⟩, ⟨window, windowed⟩, ⟨minChars, least⟩, threshold, compared⟩
    exact ⟨_, warnAt, warned, _, rfl, _, ⟨window, minChars, threshold, windowed, least, compared, rfl⟩,
      (), trivial, rfl⟩

theorem Digest.text_isOk_iff {files : List SourceFile} {graph : DependencyGraph}
    {issues : List DependencyIssue} {quality : Quality σ} {rules : Value} :
    (∃ digest, text scale files graph issues (some quality) rules = .ok digest) ↔
      ∃ limits, Limits.ofRules rules = .ok limits := by
  unfold text
  cases Limits.ofRules rules with
  | error fault => constructor <;> rintro ⟨_, ⟨⟩⟩
  | ok limits => exact ⟨fun _ => ⟨limits, rfl⟩, fun _ => ⟨_, rfl⟩⟩

/-- A survey is made just if all settings can be read and the number of files that are left out can be
written. -/
theorem Survey.ofFiles_isOk_iff {rules : Value} {budget : Budget} {files : List SourceFile} :
    (∃ survey, (ofFiles m scale clock rules budget files).outcome = .ok survey) ↔
      checkSkipped budget files = .ok () ∧ Rules.Readable rules := by
  simp only [ofFiles, Trace.bind_eq_ok, Trace.outcome_phase, Trace.outcome_note, Trace.outcome_pure]
  constructor
  · rintro ⟨survey, ⟨⟩, written, -, -, -, -, graph, -, quality, analyzed, errorAt, graded, digest, told,
      -⟩
    obtain ⟨warned, windowed, least, compared⟩ := Quality.analyze_isOk_iff.mp ⟨quality, analyzed⟩
    exact ⟨written, warned, ⟨errorAt, graded⟩, windowed, least, compared,
      Digest.text_isOk_iff.mp ⟨digest, told⟩⟩
  · rintro ⟨written, readable⟩
    obtain ⟨errorAt, graded⟩ := readable.errorAt
    obtain ⟨quality, analyzed⟩ := Quality.analyze_isOk_iff.mpr
      ⟨readable.warnAt, readable.window, readable.minChars, readable.threshold⟩
    obtain ⟨digest, told⟩ := Digest.text_isOk_iff.mpr readable.digest
    exact ⟨_, (), written, (), trivial, (), trivial, _, rfl, quality, analyzed, errorAt, graded, digest,
      told, (), trivial, rfl⟩

end Making

section Telling

/-- Both windows of a duplicate reach the first line. -/
def Clone.Duplicate.HasLines {σ : Type} (found : Clone.Duplicate σ) : Prop :=
  1 ≤ found.left.endLine ∧ 1 ≤ found.right.endLine

theorem Clone.blocks_lines {file : SourceFile} {window minChars : Int} {block : Clone.Block}
    (member : block ∈ Clone.blocks file window minChars) :
    1 ≤ block.startLine ∧ block.endLine = block.startLine - 1 + window := by
  rw [blocks, blocksOf, List.mem_filter, List.mem_map] at member
  obtain ⟨⟨index, -, rfl⟩, -⟩ := member
  simp only [blockAt]
  omega

variable {clock : Clock} {files : List SourceFile} {graph : DependencyGraph} {rules : Value}
  {budget : Budget} {quality : Quality Float}

/-- Windows with lines reach the first line. -/
theorem Quality.analyze_hasLines {window : Int} (windowed : Rules.window rules = .ok window)
    (positive : 1 ≤ window)
    (analyzed : (analyze .double clock files graph rules budget).outcome = .ok quality)
    {d : Clone.Duplicate Float} (member : d ∈ quality.duplicates) : d.HasLines := by
  obtain ⟨-, size, minChars, threshold, -, sized, -, -, -, duplicates⟩ := analyze_eq analyzed
  cases sized.symm.trans windowed
  rw [duplicates] at member
  obtain ⟨⟨i, j, left, right, -, -, -, inLeft, inRight⟩, -⟩ := Clone.mem_search_findings member
  have first := Clone.blocks_lines inLeft
  have second := Clone.blocks_lines inRight
  unfold Clone.Duplicate.HasLines
  omega

/-- Findings in single files are of known kinds, and their numbers are at least one. -/
theorem Quality.analyze_single
    (analyzed : (analyze .double clock files graph rules budget).outcome = .ok quality) :
    (∀ d ∈ quality.dead, d.kind ∈ Document.deadKinds ∧ 1 ≤ d.line) ∧
      (∀ r ∈ quality.redundant, r.kind ∈ Document.redundantKinds ∧ 1 ≤ r.line) ∧
      ∀ c ∈ quality.complex, 1 ≤ c.line ∧ 1 ≤ c.complexity := by
  obtain ⟨warnAt, -, -, -, -, -, dead, redundant, complex, -⟩ := analyze_eq analyzed
  refine ⟨?_, ?_, ?_⟩
  · intro d member
    rw [dead, List.mem_flatMap] at member
    obtain ⟨file, -, found⟩ := member
    obtain ⟨kind, -, line⟩ := DeadCode.detect_line found
    exact ⟨kind, line.1⟩
  · intro r member
    rw [redundant, List.mem_flatMap] at member
    obtain ⟨file, -, found⟩ := member
    obtain ⟨kind, -, line⟩ := Redundant.detect_line found
    exact ⟨kind, line.1⟩
  · intro c member
    rw [complex, List.mem_flatMap] at member
    obtain ⟨file, -, found⟩ := member
    obtain ⟨-, line, least⟩ := ComplexFunction.detect_line found
    exact ⟨line.1, least⟩

/-- A duplicate is at lines from the first on, if it reaches that, and its similarity is a share. -/
theorem Quality.analyze_duplicate
    (analyzed : (analyze .double clock files graph rules budget).outcome = .ok quality)
    {d : Clone.Duplicate Float} (member : d ∈ quality.duplicates) :
    1 ≤ d.left.startLine ∧ 1 ≤ d.right.startLine ∧ 0 ≤ d.similarity ∧ d.similarity ≤ 1 := by
  obtain ⟨-, window, minChars, threshold, -, -, -, -, -, duplicates⟩ := analyze_eq analyzed
  rw [duplicates] at member
  obtain ⟨⟨i, j, left, right, -, -, -, inLeft, inRight⟩, scored, above⟩ :=
    Clone.mem_search_findings member
  refine ⟨(Clone.blocks_lines inLeft).1, (Clone.blocks_lines inRight).1, ?_⟩
  rw [scored] at above ⊢
  exact Clone.similarity_double_in_unit above

/-- The only findings that a report cannot hold are duplicates before the first line. -/
theorem Document.fault?_eq_none_iff
    (analyzed : (Quality.analyze .double clock files graph rules budget).outcome = .ok quality) :
    fault? .double quality = none ↔ ∀ d ∈ quality.duplicates, d.HasLines := by
  obtain ⟨dead, redundant, functions⟩ := Quality.analyze_single analyzed
  rw [fault?, Option.map_eq_none_iff, List.find?_eq_none]
  simp only [requirements, blockFits, List.forall_mem_cons, Bool.not_eq_true, Bool.not_eq_false',
    List.all_eq_true, Bool.and_eq_true, decide_eq_true_eq, List.contains_iff_mem]
  constructor
  · rintro ⟨lines, -⟩ d member
    exact ⟨(lines d member).1.2, (lines d member).2.2⟩
  · intro reach
    refine ⟨fun d member => ?_, fun d member => ?_, fun d member => (dead d member).1,
      fun d member => (dead d member).2, fun r member => (redundant r member).1,
      fun r member => (redundant r member).2, fun c member => (functions c member).1,
      fun c member => (functions c member).2, fun _ member => absurd member List.not_mem_nil⟩
    · obtain ⟨left, right, -⟩ := Quality.analyze_duplicate analyzed member
      exact ⟨⟨left, (reach d member).1⟩, right, (reach d member).2⟩
    · obtain ⟨-, -, least, most⟩ := Quality.analyze_duplicate analyzed member
      simp [Clone.Scale.double, least, most]

end Telling

end CodeSurvey
