import CodeSurvey.Proofs.Except
import CodeSurvey.Survey

set_option autoImplicit false

namespace CodeSurvey

open Log

variable {σ : Type} {m : Clone.Measure σ Float} {scale : Clone.Scale σ} {clock : Clock}

namespace Quality

theorem analyze_eq {files : List SourceFile} {graph : DependencyGraph} {rules : Value}
    {budget : Budget} {quality : Quality σ}
    (analyzed : (analyze m clock files graph rules budget).outcome = .ok quality) :
    ∃ warnAt window minChars threshold, Rules.warnAt rules = .ok warnAt ∧
      Rules.window rules = .ok window ∧
      quality.dead = (files.flatMap fun file => DeadCode.detect file (exportsOf graph file)) ∧
      quality.redundant = files.flatMap Redundant.detect ∧
      quality.complex = (files.flatMap fun file => ComplexFunction.detect file warnAt) ∧
      quality.duplicates =
        (Clone.search m threshold window minChars budget clock files).findings := by
  unfold analyze searchClones at analyzed
  simp only [Trace.bind_eq_ok, Trace.outcome_phase, Trace.outcome_note, Trace.outcome_pure]
    at analyzed
  obtain ⟨warnAt, warned, single, scanned, found,
    ⟨window, windowed, minChars, -, threshold, -, searched⟩, -, -, built⟩ := analyzed
  cases scanned
  cases searched
  cases built
  exact ⟨warnAt, window, minChars, threshold, warned, windowed, rfl, rfl, rfl, rfl⟩

end Quality

namespace Survey

theorem cutFiles_eq_take (budget : Budget) (files : List SourceFile) :
    (cutFiles budget files).1 = files.take (cutFiles budget files).1.length := by
  unfold cutFiles
  split
  · simp only [capped, List.length_take]
    rw [List.take_eq_take_iff]
    omega
  · exact List.take_length.symm

/-- The parts of a survey of the files that a budget allows. -/
theorem ofFiles_parts {rules : Value} {budget : Budget} {files : List SourceFile}
    {survey : Survey σ}
    (returned : (ofFiles m scale clock rules budget files).outcome = .ok survey) :
    survey.filesAnalyzed = (cutFiles budget files).1.length ∧
      survey.graph = DependencyGraph.ofFiles (cutFiles budget files).1 ∧
      survey.dependencyIssues = survey.graph.issues ∧
      (Quality.analyze m clock (cutFiles budget files).1 survey.graph rules budget).outcome =
        .ok survey.quality ∧
      ∃ errorAt, Rules.errorAt rules = .ok errorAt ∧
        survey.issues = Issue.assemble scale errorAt survey.dependencyIssues survey.quality := by
  unfold ofFiles buildGraph at returned
  simp only [Trace.bind_eq_ok, Trace.outcome_phase, Trace.outcome_note, Trace.outcome_pure]
    at returned
  obtain ⟨-, -, -, -, -, -, graph, ⟨-, -, -, -, drawn⟩, quality, analyzed, errorAt, graded, digest, -, -,
    -, built⟩ := returned
  cases drawn
  cases built
  exact ⟨rfl, rfl, rfl, analyzed, errorAt, graded, rfl⟩

theorem refuseTruncated_eq_ok {budget : Budget} {given : List SourceFile}
    {survey kept : Survey σ} (passed : refuseTruncated budget given survey = .ok kept) :
    survey = kept := by
  unfold refuseTruncated at passed
  split at passed
  · cases passed
    rfl
  · cases passed

theorem run_eq {given : Value} {budget : Option Budget} {strict : Bool}
    {files : Except InputFault (List SourceFile)} {survey : Survey σ}
    (returned : (run m scale clock given budget strict files).outcome = .ok survey) :
    ∃ rules limits found, Rules.merge Rules.defaults given = .ok rules ∧ files = .ok found ∧
      (ofFiles m scale clock (.object rules) limits found).outcome = .ok survey := by
  unfold run at returned
  simp only [Trace.bind_eq_ok] at returned
  obtain ⟨rules, merged, limits, -, found, accepted, whole, analyzed, kept⟩ := returned
  have same : whole = survey := by
    split at kept
    · exact refuseTruncated_eq_ok kept
    · cases kept
      rfl
  exact ⟨rules, limits, found, Except.mapError_eq_ok.mp merged, Except.mapError_eq_ok.mp accepted,
    same ▸ Except.mapError_eq_ok.mp analyzed⟩

/-- A survey that tells of files by rules with these thresholds of complexity. -/
structure TellsOf (survey : Survey σ) (scale : Clone.Scale σ) (files : List SourceFile)
    (rules : Value) (warnAt errorAt : Int) : Prop where
  warned : Rules.warnAt rules = .ok warnAt
  graded : Rules.errorAt rules = .ok errorAt
  graph : survey.graph = DependencyGraph.ofFiles files
  dependencyIssues : survey.dependencyIssues = survey.graph.issues
  dead : survey.quality.dead =
    files.flatMap fun file => DeadCode.detect file (Quality.exportsOf survey.graph file)
  complex : survey.quality.complex =
    files.flatMap fun file => ComplexFunction.detect file warnAt
  issues : survey.issues =
    Issue.assemble scale errorAt survey.dependencyIssues survey.quality

/-- A survey that is returned tells of the first files of the collection, by the given rules laid over
the default ones. -/
theorem run_tellsOf {collection given : Value} {files : List SourceFile} {budget : Option Budget}
    {strict : Bool} {survey : Survey σ} (accepted : SourceFile.collectValue collection = .ok files)
    (returned : (run m scale clock given budget strict
      (SourceFile.collectValue collection)).outcome = .ok survey) :
    ∃ rules warnAt errorAt, Rules.merge Rules.defaults given = .ok rules ∧
      survey.TellsOf scale (files.take survey.filesAnalyzed) (.object rules) warnAt errorAt := by
  obtain ⟨rules, limits, found, merged, collected, analyzed⟩ := run_eq returned
  cases accepted.symm.trans collected
  obtain ⟨counted, graph, drawn, judged, errorAt, graded, issues⟩ := ofFiles_parts analyzed
  rw [cutFiles_eq_take, ← counted] at graph judged
  obtain ⟨warnAt, -, -, -, warned, -, dead, -, complex, -⟩ := Quality.analyze_eq judged
  exact ⟨rules, warnAt, errorAt, merged, warned, graded, graph, drawn, dead, complex, issues⟩

end Survey

end CodeSurvey
