import CodeSurvey.Proofs.Clone.Places
import CodeSurvey.Proofs.Quality.Lines
import CodeSurvey.Proofs.Source.Collection
import CodeSurvey.Proofs.Survey.Outcome

set_option autoImplicit false

namespace CodeSurvey

/-- What stands for every finding: it is of a known kind, its numbers are in their bounds, and it
points into the files. -/
structure Quality.InPlace (quality : Quality Float) (files : List SourceFile) (window : Int) :
    Prop where
  dead : ∀ d ∈ quality.dead, d.kind ∈ Document.deadKinds ∧
    ∃ file ∈ files, d.file = file.path ∧ file.HasLine d.line
  redundant : ∀ r ∈ quality.redundant, r.kind ∈ Document.redundantKinds ∧
    ∃ file ∈ files, r.file = file.path ∧ file.HasLine r.line
  complex : ∀ c ∈ quality.complex, 1 ≤ c.complexity ∧
    ∃ file ∈ files, c.file = file.path ∧ file.HasLine c.line
  duplicates : ∀ d ∈ quality.duplicates,
    (∃ file ∈ files, d.left.LiesIn window file) ∧ (∃ file ∈ files, d.right.LiesIn window file) ∧
      d.left.file ≠ d.right.file ∧ 0 ≤ d.similarity ∧ d.similarity ≤ 1

namespace Clone

/-- Paths are distinct, so windows of an earlier and a later file name different files. -/
theorem search_duplicates_inPlace {files : List SourceFile} {threshold : Float}
    {window minChars : Int} {budget : Budget} {clock : Clock} {found : Duplicate Float}
    (distinct : (files.map (·.path)).Nodup) (positive : 1 ≤ window)
    (member : found ∈ (search .double threshold window minChars budget clock files).findings) :
    (∃ file ∈ files, found.left.LiesIn window file) ∧
      (∃ file ∈ files, found.right.LiesIn window file) ∧
      found.left.file ≠ found.right.file ∧ 0 ≤ found.similarity ∧ found.similarity ≤ 1 := by
  obtain ⟨⟨i, j, left, right, less, atLeft, atRight, inLeft, inRight⟩, scored, above⟩ :=
    mem_search_findings member
  have liesLeft := blocks_liesIn positive inLeft
  have liesRight := blocks_liesIn positive inRight
  refine ⟨⟨left, List.mem_of_getElem? atLeft, liesLeft⟩,
    ⟨right, List.mem_of_getElem? atRight, liesRight⟩, ?_, ?_⟩
  · intro same
    rw [liesLeft.path, liesRight.path] at same
    have inside : i < (files.map (·.path)).length := by
      rw [List.length_map]
      exact (List.getElem?_eq_some_iff.mp atLeft).1
    have sameIndex : i = j := by
      apply (List.getElem?_inj inside distinct).mp
      rw [List.getElem?_map, List.getElem?_map, atLeft, atRight, Option.map_some, Option.map_some,
        same]
    omega
  · rw [scored] at above ⊢
    exact similarity_double_in_unit above

end Clone

namespace Quality

theorem analyze_inPlace {clock : Clock} {files : List SourceFile} {graph : DependencyGraph}
    {rules : Value} {budget : Budget} {quality : Quality Float} {window : Int}
    (distinct : (files.map (·.path)).Nodup) (windowed : Rules.window rules = .ok window)
    (positive : 1 ≤ window)
    (analyzed : (analyze .double clock files graph rules budget).outcome = .ok quality) :
    quality.InPlace files window := by
  obtain ⟨warnAt, size, minChars, threshold, -, sized, dead, redundant, complex, duplicates⟩ :=
    analyze_eq analyzed
  cases sized.symm.trans windowed
  constructor
  · intro d member
    rw [dead, List.mem_flatMap] at member
    obtain ⟨file, listed, found⟩ := member
    obtain ⟨kind, place⟩ := DeadCode.detect_line found
    exact ⟨kind, file, listed, place⟩
  · intro r member
    rw [redundant, List.mem_flatMap] at member
    obtain ⟨file, listed, found⟩ := member
    obtain ⟨kind, place⟩ := Redundant.detect_line found
    exact ⟨kind, file, listed, place⟩
  · intro c member
    rw [complex, List.mem_flatMap] at member
    obtain ⟨file, listed, found⟩ := member
    obtain ⟨named, line, least⟩ := ComplexFunction.detect_line found
    exact ⟨least, file, listed, named, line⟩
  · intro d member
    rw [duplicates] at member
    exact Clone.search_duplicates_inPlace distinct positive member

end Quality

namespace Document

/-- Findings in place break no requirement of a report. -/
theorem fault?_of_inPlace {quality : Quality Float} {files : List SourceFile} {window : Int}
    (inPlace : quality.InPlace files window) : fault? .double quality = none := by
  rw [fault?, Option.map_eq_none_iff, List.find?_eq_none]
  have blockFits_of : ∀ {block : Clone.Block}, (∃ file ∈ files, block.LiesIn window file) →
      blockFits block = true := by
    rintro block ⟨file, -, lies⟩
    have first := lies.first
    have ordered := lies.ordered
    simp only [blockFits, Bool.and_eq_true, decide_eq_true_eq]
    omega
  simp only [requirements, List.forall_mem_cons, Bool.not_eq_true, Bool.not_eq_false', List.all_eq_true,
    Bool.and_eq_true, decide_eq_true_eq, List.contains_iff_mem]
  refine ⟨fun d member => ?_, fun d member => ?_, fun d member => (inPlace.dead d member).1,
    fun d member => ?_, fun r member => (inPlace.redundant r member).1, fun r member => ?_,
    fun c member => ?_, fun c member => (inPlace.complex c member).1, nofun⟩
  · obtain ⟨left, right, -⟩ := inPlace.duplicates d member
    exact ⟨blockFits_of left, blockFits_of right⟩
  · obtain ⟨-, -, -, least, most⟩ := inPlace.duplicates d member
    simp [Clone.Scale.double, least, most]
  · obtain ⟨-, file, -, -, line⟩ := inPlace.dead d member
    exact line.1
  · obtain ⟨-, file, -, -, line⟩ := inPlace.redundant r member
    exact line.1
  · obtain ⟨-, file, -, -, line⟩ := inPlace.complex c member
    exact line.1

end Document

namespace Survey

/-- The words of a report that are taken from fixed sets, those of single findings apart. -/
structure UsesKnownWords (survey : Survey Float) : Prop where
  categories : ∀ issue ∈ survey.dependencyIssues,
    issue.category.name ∈ ["circular", "missing", "unused"]
  severities : ∀ issue ∈ survey.dependencyIssues, issue.severity.name ∈ ["error", "warning"]
  grades : ∀ issue ∈ survey.issues, issue.severity.name ∈ ["error", "warning", "info"]

theorem usesKnownWords {graph : DependencyGraph} {survey : Survey Float}
    (drawn : survey.dependencyIssues = graph.issues) : survey.UsesKnownWords := by
  constructor
  · intro issue member
    rw [drawn] at member
    simp only [DependencyGraph.issues, List.mem_append, List.mem_map] at member
    rcases member with (⟨_, -, rfl⟩ | ⟨_, -, rfl⟩) | ⟨_, -, rfl⟩ <;> simp [Category.name]
  · intro issue member
    rw [drawn] at member
    simp only [DependencyGraph.issues, List.mem_append, List.mem_map] at member
    rcases member with (⟨_, -, rfl⟩ | ⟨_, -, rfl⟩) | ⟨_, -, rfl⟩ <;> simp [Severity.name]
  · intro issue _
    cases issue.severity <;> simp [Severity.name]

/-- Every finding of a survey points at a place in the files that were analysed, the first of the
collection, and the survey has a report. -/
theorem run_points_at_real_places {collection given : Value} {files : List SourceFile}
    {rules : Fields} {window : Int} {clock : Clock} {budget : Option Budget} {strict : Bool}
    {survey : Survey Float} (accepted : SourceFile.collectValue collection = .ok files)
    (merged : Rules.merge Rules.defaults given = .ok rules)
    (windowed : Rules.window (.object rules) = .ok window) (positive : 1 ≤ window)
    (returned : (run .double .double clock given budget strict
      (SourceFile.collectValue collection)).outcome = .ok survey) :
    survey.quality.InPlace (files.take survey.filesAnalyzed) window ∧ survey.UsesKnownWords ∧
      ∃ document, Document.ofSurvey .double survey = .ok document := by
  obtain ⟨fields, limits, found, laid, collected, analyzed⟩ := run_eq returned
  cases accepted.symm.trans collected
  cases merged.symm.trans laid
  obtain ⟨counted, graph, drawn, quality, -⟩ := ofFiles_parts analyzed
  have distinct : ((files.take survey.filesAnalyzed).map (·.path)).Nodup := by
    rw [List.map_take]
    exact (SourceFile.collectValue_paths_nodup accepted).sublist (List.take_sublist _ _)
  rw [graph, cutFiles_eq_take limits files, ← counted] at quality
  have inPlace := Quality.analyze_inPlace distinct windowed positive quality
  refine ⟨inPlace, usesKnownWords drawn, ?_⟩
  rw [Document.ofSurvey, Document.fault?_of_inPlace inPlace]
  exact ⟨_, rfl⟩

/-- Two files with a condition in common, one of them with a function and the other with an import. -/
def sharedCheck : List SourceFile :=
  [⟨"a.js", "function f(x) \x7b\n  if (true) return x\n\x7d", "js"⟩,
   ⟨"b.js", "import y from './a'\n  if (true) return x\n\x7d", "js"⟩]

/-- Windows of two lines, and a warning for every decision. -/
def narrowRules : Fields :=
  [("duplication", .object [("window", .int 2), ("min_chars", .int 1)]),
   ("complexity", .object [("warn_at", .int 1)])]

theorem run_points_at_real_places_of_shared_check :
    ∃ survey, (run .double .double (fun _ => 0) (.object narrowRules) none true
        (SourceFile.collectValue (SourceFile.asCollection sharedCheck))).outcome = .ok survey ∧
      survey.quality.duplicates.length = 1 ∧ survey.quality.dead.length = 2 ∧
      survey.quality.redundant.length = 2 ∧ survey.quality.complex.length = 1 ∧
      survey.quality.InPlace (sharedCheck.take survey.filesAnalyzed) 2 ∧ survey.UsesKnownWords ∧
      ∃ document, Document.ofSurvey .double survey = .ok document := by
  have evaluated : ∃ survey, (run .double .double (fun _ => 0) (.object narrowRules) none true
      (SourceFile.collectValue (SourceFile.asCollection sharedCheck))).outcome = .ok survey ∧
        (survey.quality.duplicates.length == 1 && survey.quality.dead.length == 2 &&
          survey.quality.redundant.length == 2 && survey.quality.complex.length == 1) = true :=
    Except.exists_of_any (by decide +kernel)
  obtain ⟨survey, returned, counted⟩ := evaluated
  have accepted : SourceFile.collectValue (SourceFile.asCollection sharedCheck) =
      .ok sharedCheck := by
    rfl
  have windowed : Rules.window (.object (Rules.overlay Rules.defaults narrowRules)) = .ok 2 := by rfl
  simp only [Bool.and_eq_true, beq_iff_eq] at counted
  obtain ⟨⟨⟨duplicates, dead⟩, redundant⟩, complex⟩ := counted
  exact ⟨survey, returned, duplicates, dead, redundant, complex,
    run_points_at_real_places accepted rfl windowed (by decide) returned⟩

end Survey

end CodeSurvey
