import CodeSurvey.Proofs.Report.Assembly
import CodeSurvey.Proofs.Source.Collection
import CodeSurvey.Proofs.Survey.Outcome

set_option autoImplicit false

namespace CodeSurvey

namespace Source

theorem functionsFrom_body {family : Family} {all rest : List (List Char)} {start : Nat}
    {f : Function} (member : f ∈ functionsFrom family all rest start) :
    f.body = String.ofList (body family.bodyStyle all (f.line - 1)).1 := by
  induction rest generalizing start with
  | nil => cases member
  | cons line rest ih =>
      rw [functionsFrom, List.mem_append] at member
      rcases member with here | later
      · split at here
        · cases here
        · obtain ⟨name, -, rfl⟩ := List.mem_map.mp here
          rfl
      · exact ih later

/-- Functions that begin on one line have one body. -/
theorem functions_body_of_line {family : Option Family} {content : List Char} {f g : Function}
    (first : f ∈ functions family content) (second : g ∈ functions family content)
    (line : f.line = g.line) : f.body = g.body := by
  cases family with
  | none => cases first
  | some family => rw [functionsFrom_body first, functionsFrom_body second, line]

end Source

theorem ComplexFunction.mem_detect {file : SourceFile} {warnAt : Int} {c : ComplexFunction} :
    c ∈ detect file warnAt ↔
      ∃ f ∈ Source.functions file.family file.content.toList,
        warnAt < Source.complexity f.body.toList ∧
          c = ⟨file.path, f.name, f.line, Source.complexity f.body.toList⟩ := by
  simp only [detect, scores, List.mem_map, List.mem_filter, decide_eq_true_eq]
  constructor
  · rintro ⟨_, ⟨⟨f, declared, rfl⟩, above⟩, rfl⟩
    exact ⟨f, declared, above, rfl⟩
  · rintro ⟨f, declared, above, rfl⟩
    exact ⟨_, ⟨⟨f, declared, rfl⟩, above⟩, rfl⟩

theorem DependencyGraph.issues_category {graph : DependencyGraph} {issue : DependencyIssue}
    (member : issue ∈ graph.issues) : issue.category ≠ .complexity := by
  simp only [issues, List.mem_append, List.mem_map] at member
  rcases member with (⟨_, -, rfl⟩ | ⟨_, -, rfl⟩) | ⟨_, -, rfl⟩ <;> simp

namespace Issue

/-- An issue that tells of a function on a line of a file whose complexity is an error. -/
structure IsComplexityError (issue : Issue) (path : String) (line : Int) : Prop where
  category : issue.category = .complexity
  severity : issue.severity = .error
  files : issue.files = [path]
  line : issue.line = some line

theorem ofComplex_isComplexityError {errorAt : Int} {c : ComplexFunction} {path : String}
    {line : Int} : (ofComplex errorAt c).IsComplexityError path line ↔
      c.file = path ∧ c.line = line ∧ errorAt ≤ c.complexity := by
  have grade : (ofComplex errorAt c).severity = .error ↔ errorAt ≤ c.complexity := by
    by_cases reached : errorAt ≤ c.complexity <;>
      simp [ofComplex, gradeIssue, Category.severity, reached]
  constructor
  · rintro ⟨-, severity, files, place⟩
    exact ⟨List.singleton_inj.mp files, Option.some.inj place, grade.mp severity⟩
  · rintro ⟨rfl, rfl, reached⟩
    exact ⟨rfl, grade.mpr reached, rfl, rfl⟩

/-- Issues of complexity come from complex functions only. -/
theorem exists_isComplexityError_iff {σ : Type} (scale : Clone.Scale σ) (errorAt : Int)
    (graph : DependencyGraph) (quality : Quality σ) (path : String) (line : Int) :
    (∃ issue ∈ assemble scale errorAt graph.issues quality, issue.IsComplexityError path line) ↔
      ∃ c ∈ quality.complex, c.file = path ∧ c.line = line ∧ errorAt ≤ c.complexity := by
  simp only [(assemble_perm scale errorAt graph.issues quality).mem_iff]
  constructor
  · rintro ⟨issue, member, error⟩
    simp only [flatten, List.mem_append, List.mem_map] at member
    rcases member with (((⟨d, drawn, rfl⟩ | ⟨_, -, rfl⟩) | ⟨_, -, rfl⟩) | ⟨_, -, rfl⟩) |
      ⟨c, listed, rfl⟩
    · exact absurd error.category (DependencyGraph.issues_category drawn)
    · cases error.category
    · cases error.category
    · cases error.category
    · exact ⟨c, listed, ofComplex_isComplexityError.mp error⟩
  · rintro ⟨c, listed, told⟩
    refine ⟨ofComplex errorAt c, ?_, ofComplex_isComplexityError.mpr told⟩
    exact List.mem_append_right _ (List.mem_map_of_mem listed)

end Issue

namespace Survey

variable {σ : Type} {m : Clone.Measure σ Float} {scale : Clone.Scale σ} {clock : Clock}

/-- A function of the files that were analysed whose complexity reaches the threshold for errors is told
of as an error, at its file and line, just if it is above the threshold for warnings. -/
theorem run_tells_error_iff_above_warning {collection given : Value} {files : List SourceFile}
    {budget : Option Budget} {strict : Bool} {survey : Survey σ}
    (accepted : SourceFile.collectValue collection = .ok files)
    (returned : (run m scale clock given budget strict
      (SourceFile.collectValue collection)).outcome = .ok survey) :
    ∃ rules warnAt errorAt, Rules.merge Rules.defaults given = .ok rules ∧
      Rules.warnAt (.object rules) = .ok warnAt ∧ Rules.errorAt (.object rules) = .ok errorAt ∧
      ∀ file ∈ files.take survey.filesAnalyzed,
        ∀ f ∈ Source.functions file.family file.content.toList,
          errorAt ≤ Source.complexity f.body.toList →
            ((∃ issue ∈ survey.issues, issue.IsComplexityError file.path f.line) ↔
              warnAt < Source.complexity f.body.toList) := by
  obtain ⟨rules, warnAt, errorAt, merged, tells⟩ := run_tellsOf accepted returned
  refine ⟨rules, warnAt, errorAt, merged, tells.warned, tells.graded, ?_⟩
  intro file analysed f declared reached
  rw [tells.issues, tells.dependencyIssues, Issue.exists_isComplexityError_iff, tells.complex]
  simp only [List.mem_flatMap, ComplexFunction.mem_detect]
  constructor
  · rintro ⟨_, ⟨other, listed, g, found, above, rfl⟩, path, line, -⟩
    have distinct := SourceFile.collectValue_paths_nodup accepted
    have same : other = file := List.inj_on_of_nodup_map distinct
      (List.mem_of_mem_take listed) (List.mem_of_mem_take analysed) path
    subst same
    rwa [Source.functions_body_of_line declared found (Int.ofNat.inj line).symm]
  · intro above
    exact ⟨_, ⟨file, analysed, f, declared, above, rfl⟩, rfl, rfl, reached⟩

/-- A file with one function, which takes one decision. -/
def oneDecision : SourceFile :=
  ⟨"a.js", "function f(x) \x7b\n  if (x) return 1\n\x7d", "js"⟩

def thresholds (warnAt errorAt : Int) : Fields :=
  [("complexity", .object [("warn_at", .int warnAt), ("error_at", .int errorAt)])]

theorem run_tells_error_iff_above_warning_of_one_decision :
    ∃ survey, (run .double .double (fun _ => 0) (.object (thresholds 1 2)) none true
        (SourceFile.collectValue (SourceFile.asCollection [oneDecision]))).outcome = .ok survey ∧
      ∃ issue ∈ survey.issues, issue.IsComplexityError "a.js" 1 := by
  have accepted : SourceFile.collectValue (SourceFile.asCollection [oneDecision]) =
      .ok [oneDecision] := by rfl
  obtain ⟨survey, returned, counted⟩ : ∃ survey, (run .double .double (fun _ => 0)
      (.object (thresholds 1 2)) none true
      (SourceFile.collectValue (SourceFile.asCollection [oneDecision]))).outcome = .ok survey ∧
        (survey.filesAnalyzed == 1) = true := Except.exists_of_any (by decide +kernel)
  obtain ⟨rules, warnAt, errorAt, merged, warned, graded, told⟩ :=
    run_tells_error_iff_above_warning accepted returned
  cases merged
  cases warned
  cases graded
  rw [beq_iff_eq.mp counted] at told
  obtain ⟨f, declared, line, score⟩ : ∃ f ∈ Source.functions oneDecision.family
      oneDecision.content.toList, f.line = 1 ∧ Source.complexity f.body.toList = 2 := by
    decide +kernel
  have error := told oneDecision List.mem_cons_self f declared
  rw [line, score] at error
  exact ⟨survey, returned, (error (by decide)).mpr (by decide)⟩

/-- A function that reaches the threshold for errors, but not the one for warnings, is no issue. -/
theorem run_silent_on_error_below_warning :
    SourceFile.collectValue (SourceFile.asCollection [oneDecision]) = .ok [oneDecision] ∧
      Rules.merge Rules.defaults (.object (thresholds 10 2)) =
        .ok (Rules.overlay Rules.defaults (thresholds 10 2)) ∧
      Rules.errorAt (.object (Rules.overlay Rules.defaults (thresholds 10 2))) = .ok 2 ∧
      (∃ f ∈ Source.functions oneDecision.family oneDecision.content.toList,
        f.line = 1 ∧ Source.complexity f.body.toList = 2) ∧
      ∃ survey, (run .double .double (fun _ => 0) (.object (thresholds 10 2)) none false
          (SourceFile.collectValue (SourceFile.asCollection [oneDecision]))).outcome = .ok survey ∧
        survey.filesAnalyzed = 1 ∧
        ¬ ∃ issue ∈ survey.issues, issue.IsComplexityError "a.js" 1 := by
  have accepted : SourceFile.collectValue (SourceFile.asCollection [oneDecision]) =
      .ok [oneDecision] := by rfl
  refine ⟨accepted, rfl, rfl, by decide +kernel, ?_⟩
  obtain ⟨survey, returned, checked⟩ : ∃ survey, (run .double .double (fun _ => 0)
      (.object (thresholds 10 2)) none false
      (SourceFile.collectValue (SourceFile.asCollection [oneDecision]))).outcome = .ok survey ∧
        (survey.filesAnalyzed == 1 && survey.quality.complex.isEmpty) = true :=
    Except.exists_of_any (by decide +kernel)
  rw [Bool.and_eq_true, beq_iff_eq, List.isEmpty_iff] at checked
  refine ⟨survey, returned, checked.1, ?_⟩
  obtain ⟨_, _, _, -, tells⟩ := run_tellsOf accepted returned
  rw [tells.issues, tells.dependencyIssues, Issue.exists_isComplexityError_iff, checked.2]
  simp

end Survey

end CodeSurvey
