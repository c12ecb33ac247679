import CodeSurvey.Proofs.Clone.Limits
import CodeSurvey.Proofs.Survey.Outcome

/-!
Strict mode. A survey is made in the same way in both modes; in strict mode it is then refused if a
budget cut it short, together with all that was found. Whether it was cut short is told three times, by
a flag, by events and by the search for duplicates, and the three agree.
-/

set_option autoImplicit false

namespace CodeSurvey

open Log

variable {σ : Type} {m : Clone.Measure σ Float} {scale : Clone.Scale σ} {clock : Clock}

namespace Quality

theorem searchClones_eq_ok {files : List SourceFile} {rules : Value} {budget : Budget}
    {found : Clone.Result σ} :
    (searchClones m clock files rules budget).outcome = .ok found ↔
      ∃ window minChars threshold, Rules.window rules = .ok window ∧
        Rules.minChars rules = .ok minChars ∧ Rules.threshold rules = .ok threshold ∧
        Clone.search m threshold window minChars budget clock files = found := by
  unfold searchClones
  simp only [Trace.bind_eq_ok, Trace.ofExcept, Except.ok.injEq]
  constructor
  · rintro ⟨window, windowed, minChars, least, threshold, compared, searched⟩
    exact ⟨window, minChars, threshold, windowed, least, compared, searched⟩
  · rintro ⟨window, minChars, threshold, windowed, least, compared, searched⟩
    exact ⟨window, windowed, minChars, least, threshold, compared, searched⟩

/-- The findings repeat the flag and the reasons of the search for duplicates. -/
theorem analyze_searchClones {files : List SourceFile} {graph : DependencyGraph} {rules : Value}
    {budget : Budget} {quality : Quality σ}
    (analyzed : (analyze m clock files graph rules budget).outcome = .ok quality) :
    ∃ found, (searchClones m clock files rules budget).outcome = .ok found ∧
      quality.truncated = found.truncated ∧ quality.reasons = found.reasons.map (·.text) := by
  unfold analyze at analyzed
  simp only [Trace.bind_eq_ok, Trace.outcome_phase, Trace.outcome_note, Trace.outcome_pure]
    at analyzed
  obtain ⟨warnAt, -, single, -, found, searched, -, -, built⟩ := analyzed
  cases built
  exact ⟨found, searched, rfl, rfl⟩

theorem searchClones_truncated_iff {files : List SourceFile} {rules : Value} {budget : Budget}
    {found : Clone.Result σ}
    (searched : (searchClones m clock files rules budget).outcome = .ok found) :
    found.truncated = true ↔ found.reasons ≠ [] := by
  obtain ⟨window, minChars, threshold, -, -, -, rfl⟩ := searchClones_eq_ok.mp searched
  exact Clone.search_truncated_iff m threshold window minChars budget clock files

end Quality

def Refusal.isBudget : Refusal σ → Bool
  | .budget .. => true
  | _ => false

namespace Survey

theorem cutFiles_event_iff (budget : Budget) (files : List SourceFile) :
    (cutFiles budget files).2.toList ≠ [] ↔ budget.maxFiles < files.length := by
  unfold cutFiles
  split
  · rename_i exceeds
    simp [exceeds]
  · rename_i fits
    simp [fits]

/-- The flag of a survey and its events. -/
theorem ofFiles_events {rules : Value} {budget : Budget} {files : List SourceFile}
    {survey : Survey σ}
    (returned : (ofFiles m scale clock rules budget files).outcome = .ok survey) :
    survey.truncated = !survey.events.isEmpty ∧
      survey.events = (cutFiles budget files).2.toList ++
        (if survey.quality.truncated then survey.quality.reasons else []) := by
  unfold ofFiles at returned
  simp only [Trace.bind_eq_ok, Trace.outcome_phase, Trace.outcome_note, Trace.outcome_pure]
    at returned
  obtain ⟨-, -, -, -, -, -, graph, -, quality, -, errorAt, -, digest, -, -, -, built⟩ := returned
  cases built
  exact ⟨rfl, rfl⟩

theorem ofFiles_truncated_iff {rules : Value} {budget : Budget} {files : List SourceFile}
    {survey : Survey σ}
    (returned : (ofFiles m scale clock rules budget files).outcome = .ok survey) :
    survey.truncated = true ↔ survey.events ≠ [] := by
  rw [(ofFiles_events returned).1]
  simp

/-- There are events just if there are too many files or the search for duplicates was cut short. -/
theorem ofFiles_events_iff {rules : Value} {budget : Budget} {files : List SourceFile}
    {survey : Survey σ}
    (returned : (ofFiles m scale clock rules budget files).outcome = .ok survey) :
    ∃ found, (Quality.searchClones m clock (cutFiles budget files).1 rules budget).outcome =
        .ok found ∧
      survey.quality.truncated = found.truncated ∧
      (survey.events ≠ [] ↔ budget.maxFiles < files.length ∨ found.truncated = true) := by
  obtain ⟨-, -, -, analyzed, -⟩ := ofFiles_parts returned
  obtain ⟨found, searched, flag, reasons⟩ := Quality.analyze_searchClones analyzed
  refine ⟨found, searched, flag, ?_⟩
  rw [(ofFiles_events returned).2, ← cutFiles_event_iff, flag, reasons]
  have told := Quality.searchClones_truncated_iff searched
  cases cut : found.truncated with
  | false => simp
  | true =>
      have some : found.reasons ≠ [] := told.mp cut
      simp [some]

/-- What a run works with: the rules, the budget and the files. -/
structure Reads (given : Value) (budget : Option Budget)
    (files : Except InputFault (List SourceFile)) (rules : Fields) (limits : Budget)
    (found : List SourceFile) : Prop where
  merged : Rules.merge Rules.defaults given = .ok rules
  limited : budget.elim (Rules.budget (.object rules)) .ok = .ok limits
  accepted : files = .ok found

section Run

variable {given : Value} {budget : Option Budget} {files : Except InputFault (List SourceFile)}

/-- A run that has what it works with makes the survey, and in strict mode looks at its events. -/
theorem Reads.run_outcome {rules : Fields} {limits : Budget} {found : List SourceFile}
    (reads : Reads given budget files rules limits found) (strict : Bool) :
    (run m scale clock given budget strict files).outcome =
      ((ofFiles m scale clock (.object rules) limits found).outcome.mapError .rule).bind fun survey =>
        if strict then refuseTruncated limits found survey else .ok survey := by
  rw [run, Trace.outcome_bind_of_ok (Except.mapError_eq_ok.mpr reads.merged),
    Trace.outcome_bind_of_ok (Except.mapError_eq_ok.mpr reads.limited),
    Trace.outcome_bind_of_ok (Except.mapError_eq_ok.mpr reads.accepted), Trace.outcome_bind]
  cases strict <;> rfl

/-- A run without a budget that can be read is refused for its rules. -/
theorem run_outcome_of_unlimited {rules : Fields} {fault : RuleFault}
    (merged : Rules.merge Rules.defaults given = .ok rules)
    (unlimited : budget.elim (Rules.budget (.object rules)) .ok = .error fault) (strict : Bool) :
    (run m scale clock given budget strict files).outcome = .error (.rule fault) := by
  rw [run, Trace.outcome_bind_of_ok (Except.mapError_eq_ok.mpr merged),
    Trace.outcome_bind_of_error (Except.mapError_of_error unlimited)]

/-- Files that are refused are looked at after the budget. -/
theorem run_outcome_of_refused {rules : Fields} {limits : Budget} {fault : InputFault}
    (merged : Rules.merge Rules.defaults given = .ok rules)
    (limited : budget.elim (Rules.budget (.object rules)) .ok = .ok limits)
    (refused : files = .error fault) (strict : Bool) :
    (run m scale clock given budget strict files).outcome = .error (.input fault) := by
  rw [run, Trace.outcome_bind_of_ok (Except.mapError_eq_ok.mpr merged),
    Trace.outcome_bind_of_ok (Except.mapError_eq_ok.mpr limited),
    Trace.outcome_bind_of_error (Except.mapError_of_error refused)]

/-- A run that lacks something is refused for it in both modes. -/
theorem run_outcome_of_not_reads
    (lacks : ∀ rules limits found, ¬ Reads given budget files rules limits found) :
    ∃ refusal : Refusal σ, refusal.isBudget = false ∧
      ∀ strict, (run m scale clock given budget strict files).outcome = .error refusal := by
  cases merged : Rules.merge Rules.defaults given with
  | error fault =>
      refine ⟨.rule fault, rfl, fun strict => ?_⟩
      rw [run, Trace.outcome_bind_of_error (Except.mapError_of_error merged)]
  | ok rules =>
      cases limited : budget.elim (Rules.budget (.object rules)) .ok with
      | error fault => exact ⟨.rule fault, rfl, run_outcome_of_unlimited merged limited⟩
      | ok limits =>
          cases accepted : files with
          | ok found => exact absurd ⟨merged, limited, accepted⟩ (lacks rules limits found)
          | error fault => exact ⟨.input fault, rfl, run_outcome_of_refused merged limited rfl⟩

end Run

/-- The two ways of a run: it is refused alike in both modes, or it makes one survey in both. -/
theorem run_cases (m : Clone.Measure σ Float) (scale : Clone.Scale σ) (clock : Clock)
    (given : Value) (budget : Option Budget) (files : Except InputFault (List SourceFile)) :
    (∃ refusal : Refusal σ, refusal.isBudget = false ∧
      ∀ strict, (run m scale clock given budget strict files).outcome = .error refusal) ∨
    ∃ rules limits found survey, Reads given budget files rules limits found ∧
      (ofFiles m scale clock (.object rules) limits found).outcome = .ok survey ∧
      ∀ strict, (run m scale clock given budget strict files).outcome =
        if strict then refuseTruncated limits found survey else .ok survey := by
  by_cases complete : ∃ rules limits found, Reads given budget files rules limits found
  · obtain ⟨rules, limits, found, reads⟩ := complete
    cases made : (ofFiles m scale clock (.object rules) limits found).outcome with
    | error fault =>
        refine .inl ⟨.rule fault, rfl, fun strict => ?_⟩
        rw [reads.run_outcome, made]
        rfl
    | ok survey =>
        refine .inr ⟨rules, limits, found, survey, reads, made, fun strict => ?_⟩
        rw [reads.run_outcome, made]
        rfl
  · refine .inl (run_outcome_of_not_reads fun rules limits found reads => ?_)
    exact complete ⟨rules, limits, found, reads⟩

/-- A survey is refused just if it has events: for the first of them, and with the limit on files if
there were too many. -/
theorem refuseTruncated_eq_error {limits : Budget} {found : List SourceFile} {survey : Survey σ}
    {refusal : Refusal σ} : refuseTruncated limits found survey = .error refusal ↔
      ∃ reason, survey.events.head? = some reason ∧ refusal = .budget reason
        (if limits.maxFiles < found.length then some limits.maxFiles else none) survey := by
  unfold refuseTruncated
  cases survey.events with
  | nil => simp
  | cons reason rest => simp [eq_comm]

theorem exists_refuseTruncated_iff {limits : Budget} {found : List SourceFile} {survey : Survey σ} :
    (∃ reason limit kept, refuseTruncated limits found survey =
      .error (.budget reason limit kept)) ↔ survey.events ≠ [] := by
  unfold refuseTruncated
  cases survey.events with
  | nil => simp
  | cons reason rest => simp

theorem refuseTruncated_of_no_events {limits : Budget} {found : List SourceFile} {survey : Survey σ}
    (none : survey.events = []) : refuseTruncated limits found survey = .ok survey := by
  simp [refuseTruncated, none]

/-- Files that are accepted are no reason to refuse a run. -/
theorem run_outcome_ne_input {files : Except InputFault (List SourceFile)}
    {found : List SourceFile} (given : Value) (budget : Option Budget) (strict : Bool)
    (accepted : files = .ok found) (fault : InputFault) :
    (run m scale clock given budget strict files).outcome ≠ .error (.input fault) := by
  intro refused
  cases merged : Rules.merge Rules.defaults given with
  | error cause =>
      rw [run, Trace.outcome_bind_of_error (Except.mapError_of_error merged)] at refused
      cases refused
  | ok rules =>
      cases limited : budget.elim (Rules.budget (.object rules)) .ok with
      | error cause =>
          rw [run_outcome_of_unlimited merged limited] at refused
          cases refused
      | ok limits =>
          have reads : Reads given budget files rules limits found := ⟨merged, limited, accepted⟩
          rw [reads.run_outcome] at refused
          cases made : (ofFiles m scale clock (.object rules) limits found).outcome with
          | error cause =>
              rw [made] at refused
              cases refused
          | ok survey =>
              rw [made] at refused
              cases strict with
              | false => cases refused
              | true =>
                  obtain ⟨reason, -, same⟩ := refuseTruncated_eq_error.mp refused
                  cases same

/-- Strict mode refuses a run by a budget just if the other mode makes a survey that was cut short. The
refusal then holds that survey and its first event, and the limit on files if there were too many of
them. In all other cases the modes agree. A survey was cut short just if it has events, and it has some
just if there were too many files or the search for duplicates was cut short. -/
theorem run_strict_refuses_iff_truncated (m : Clone.Measure σ Float) (scale : Clone.Scale σ)
    (clock : Clock) (given : Value) (budget : Option Budget)
    (files : Except InputFault (List SourceFile)) :
    let strict := (run m scale clock given budget true files).outcome
    let lenient := (run m scale clock given budget false files).outcome
    ((∃ reason limit kept, strict = .error (.budget reason limit kept)) ↔
        ∃ survey, lenient = .ok survey ∧ survey.truncated = true) ∧
      (∀ reason limit kept, strict = .error (.budget reason limit kept) →
        lenient = .ok kept ∧ kept.events.head? = some reason ∧
          ∃ rules limits found, Reads given budget files rules limits found ∧
            limit = if limits.maxFiles < found.length then some limits.maxFiles else none) ∧
      ((¬ ∃ survey, lenient = .ok survey ∧ survey.truncated = true) → strict = lenient) ∧
      ∀ survey, lenient = .ok survey →
        (survey.truncated = true ↔ survey.events ≠ []) ∧
          ∃ rules limits found search, Reads given budget files rules limits found ∧
            (Quality.searchClones m clock (cutFiles limits found).1 (.object rules)
              limits).outcome = .ok search ∧
            (survey.events ≠ [] ↔ limits.maxFiles < found.length ∨ search.truncated = true) := by
  intro strict lenient
  rcases run_cases m scale clock given budget files with
    ⟨refusal, other, same⟩ | ⟨rules, limits, found, survey, reads, made, outcome⟩
  · have refused : strict = .error refusal := same true
    have alike : lenient = .error refusal := same false
    rw [refused, alike]
    refine ⟨⟨?_, nofun⟩, ?_, fun _ => rfl, nofun⟩
    · rintro ⟨reason, limit, kept, budgeted⟩
      cases budgeted
      cases other
    · intro reason limit kept budgeted
      cases budgeted
      cases other
  · have refused : strict = refuseTruncated limits found survey := outcome true
    have returned : lenient = .ok survey := outcome false
    have flag := ofFiles_truncated_iff made
    rw [refused, returned]
    refine ⟨?_, ?_, ?_, ?_⟩
    · rw [exists_refuseTruncated_iff, ← flag]
      constructor
      · intro cut
        exact ⟨survey, rfl, cut⟩
      · rintro ⟨_, ⟨rfl⟩, cut⟩
        exact cut
    · intro reason limit kept stopped
      obtain ⟨first, head, same⟩ := refuseTruncated_eq_error.mp stopped
      cases same
      exact ⟨rfl, head, rules, limits, found, reads, rfl⟩
    · intro whole
      apply refuseTruncated_of_no_events
      apply Classical.byContradiction
      intro some
      exact whole ⟨survey, rfl, flag.mpr some⟩
    · rintro _ ⟨rfl⟩
      obtain ⟨search, searched, -, events⟩ := ofFiles_events_iff made
      exact ⟨flag, rules, limits, found, search, reads, searched, events⟩

/-- Two files without content. -/
def emptyPair : List SourceFile :=
  [⟨"a.js", "", "js"⟩, ⟨"b.js", "", "js"⟩]

theorem run_strict_refuses_iff_truncated_of_second_file :
    ∃ reason kept,
      (run .double .double (fun _ => 0) .null (some { maxFiles := 1 }) true
        (.ok emptyPair)).outcome = .error (.budget reason (some 1) kept) ∧
      (run .double .double (fun _ => 0) .null (some { maxFiles := 1 }) false
        (.ok emptyPair)).outcome = .ok kept ∧ kept.events.head? = some reason := by
  obtain ⟨refused, tells, -, -⟩ := run_strict_refuses_iff_truncated .double .double (fun _ => 0) .null
    (some { maxFiles := 1 }) (.ok emptyPair)
  obtain ⟨reason, limit, kept, stopped⟩ := refused.mpr (Except.exists_of_any (by decide +kernel))
  obtain ⟨returned, first, rules, limits, found, reads, told⟩ := tells reason limit kept stopped
  cases reads.limited
  cases reads.accepted
  cases told
  exact ⟨reason, kept, stopped, returned, first⟩

end Survey

end CodeSurvey
