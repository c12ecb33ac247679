import CodeSurvey.Proofs.Survey.Feasible
import CodeSurvey.Service.Answer

set_option autoImplicit false

namespace CodeSurvey.Service

open Log

/-- Whether an answer is a report, whole or partial, or a refusal of the files. -/
def Answer.isSettled : Answer → Bool
  | .report _ | .overBudget .. | .refused _ => true
  | _ => false

namespace Order

/-- The rules that the service asks a survey to go by when there is no rules file. -/
def laidRules (order : Order) : Fields :=
  Rules.overlay Rules.defaults (order.rules.getD [])

/-- The rules that the survey goes by: it lays those it is given over the default ones again. -/
def effectiveRules (order : Order) : Value :=
  .object (Rules.overlay Rules.defaults order.laidRules)

/-- The files of an order, or the fault of the first one that is refused. -/
def sources (order : Order) : Except InputFault (List SourceFile) :=
  SourceFile.collect [] (order.files.map (·.source))

/-- An order whose budget can be read and whose files, if they are not refused, can be surveyed and
told about. -/
def Answerable (clock : Clock) (order : Order) : Prop :=
  ∃ limits, Rules.budget order.effectiveRules = .ok limits ∧
    ∀ found, order.sources = .ok found →
      Survey.checkSkipped limits found = .ok () ∧ Rules.Readable order.effectiveRules ∧
        ∀ survey, (Survey.ofFiles .double .double clock order.effectiveRules limits found).outcome =
            .ok survey → ∀ d ∈ survey.quality.duplicates, d.HasLines

end Order

section Answering

variable {σ : Type} {m : Clone.Measure σ Float} {scale : Clone.Scale σ} {clock : Clock}

/-- An answer about a survey is settled or a failure. -/
theorem answerOf_isSettled_eq_false (outcome : Except (Refusal σ) (Survey σ)) :
    (answerOf scale outcome).isSettled = false ↔ answerOf scale outcome = .failed := by
  rcases outcome with (fault | fault | ⟨reason, limit, found⟩) | survey <;> simp only [answerOf]
  · simp [Answer.isSettled]
  · simp [Answer.isSettled]
  · cases (Document.ofSurvey scale found).toOption <;> simp [Answer.isSettled]
  · cases (Document.ofSurvey scale survey).toOption <;> simp [Answer.isSettled]

/-- A survey is told, whole or partial, just if a report can hold its findings. -/
theorem answerOf_refuseTruncated_isSettled {limits : Budget} {found : List SourceFile}
    {survey : Survey σ} :
    (answerOf scale (Survey.refuseTruncated limits found survey)).isSettled = true ↔
      Document.fault? scale survey.quality = none := by
  unfold Survey.refuseTruncated
  cases survey.events <;> simp only [answerOf, Document.ofSurvey] <;>
    cases Document.fault? scale survey.quality <;> simp [Except.toOption, Answer.isSettled]

theorem fulfil_without_rules_file (order : Order) :
    fulfil m scale clock none order =
      answerOf scale (Survey.run m scale clock (.object order.laidRules) none true
        order.sources).outcome := by
  obtain ⟨files, rules⟩ := order
  cases rules <;> rfl

end Answering

variable {clock : Clock}

/-- A survey that is made is told just if its duplicates have lines. -/
theorem answerOf_made_isSettled {rules : Value} {limits : Budget} {found : List SourceFile}
    {survey : Survey Float}
    (made : (Survey.ofFiles .double .double clock rules limits found).outcome = .ok survey) :
    (answerOf .double (Survey.refuseTruncated limits found survey)).isSettled = true ↔
      ∀ d ∈ survey.quality.duplicates, d.HasLines := by
  obtain ⟨-, -, -, analyzed, -⟩ := Survey.ofFiles_parts made
  rw [answerOf_refuseTruncated_isSettled, Document.fault?_eq_none_iff analyzed]

/-- Files that are not refused are answered just if they can be surveyed and told about. -/
theorem answerOf_run_isSettled {given rules : Fields}
    {files : Except InputFault (List SourceFile)} {limits : Budget} {found : List SourceFile}
    (reads : Survey.Reads (.object given) none files rules limits found) :
    (answerOf .double (Survey.run .double .double clock (.object given) none true
        files).outcome).isSettled = true ↔
      Survey.checkSkipped limits found = .ok () ∧ Rules.Readable (.object rules) ∧
        ∀ survey, (Survey.ofFiles .double .double clock (.object rules) limits found).outcome =
          .ok survey → ∀ d ∈ survey.quality.duplicates, d.HasLines := by
  have made : (∃ survey, (Survey.ofFiles .double .double clock (.object rules) limits found).outcome =
      .ok survey) ↔ _ := Survey.ofFiles_isOk_iff
  rw [reads.run_outcome, ← and_assoc, ← made]
  cases outcome : (Survey.ofFiles .double .double clock (.object rules) limits found).outcome with
  | error fault =>
      constructor
      · nofun
      · rintro ⟨⟨survey, ⟨⟩⟩, -⟩
  | ok survey =>
      refine (answerOf_made_isSettled outcome).trans ⟨fun lines => ⟨⟨survey, rfl⟩, ?_⟩, fun told => ?_⟩
      · rintro _ ⟨rfl⟩
        exact lines
      · exact told.2 survey rfl

/-- An order is settled just if it is answerable. -/
theorem fulfil_isSettled_iff (order : Order) :
    (fulfil .double .double clock none order).isSettled = true ↔ order.Answerable clock := by
  have merged : Rules.merge Rules.defaults (.object order.laidRules) = .ok _ := rfl
  rw [fulfil_without_rules_file, Order.Answerable]
  cases limited : Rules.budget order.effectiveRules with
  | error fault =>
      have unlimited : (none : Option Budget).elim (Rules.budget order.effectiveRules) .ok =
          .error fault := limited
      rw [Survey.run_outcome_of_unlimited merged unlimited]
      constructor
      · nofun
      · rintro ⟨limits, ⟨⟩, -⟩
  | ok limits =>
      cases accepted : order.sources with
      | error fault =>
          have bounded : (none : Option Budget).elim (Rules.budget order.effectiveRules) .ok =
              .ok limits := limited
          rw [Survey.run_outcome_of_refused merged bounded rfl]
          exact ⟨fun _ => ⟨limits, rfl, nofun⟩, fun _ => rfl⟩
      | ok found =>
          rw [answerOf_run_isSettled ⟨merged, limited, rfl⟩]
          constructor
          · intro told
            refine ⟨limits, rfl, ?_⟩
            rintro _ ⟨rfl⟩
            exact told
          · rintro ⟨_, ⟨rfl⟩, told⟩
            exact told found rfl

/-- Windows with lines leave the rules and the number of files as the only hindrances. -/
theorem Order.answerable_of_window {order : Order} {limits : Budget} {window : Int}
    (limited : Rules.budget order.effectiveRules = .ok limits)
    (readable : Rules.Readable order.effectiveRules)
    (windowed : Rules.window order.effectiveRules = .ok window) (positive : 1 ≤ window)
    (written : ∀ found, order.sources = .ok found → Survey.checkSkipped limits found = .ok ()) :
    order.Answerable clock := by
  refine ⟨limits, limited, fun found accepted => ⟨written found accepted, readable, ?_⟩⟩
  intro survey made d member
  obtain ⟨-, -, -, analyzed, -⟩ := Survey.ofFiles_parts made
  exact Quality.analyze_hasLines windowed positive analyzed member

theorem analyze_of_sound {body : Body} {order : Order} (sound : Order.ofBody body = .ok order) :
    analyze .double .double clock none body = fulfil .double .double clock none order := by
  cases body with
  | unreadable fault => cases sound
  | absent => cases sound
  | given value => simp only [analyze, sound]

/-- Without a rules file a sound body is settled just if its order is answerable, and ends in a failure
otherwise. It is settled whenever its rules can be used, its windows have lines and the number of files
that are left out can be written. -/
theorem analyze_settled_iff_answerable (clock : Clock) {body : Body} {order : Order}
    (sound : Order.ofBody body = .ok order) :
    let answer := analyze .double .double clock none body
    (answer.isSettled = true ↔ order.Answerable clock) ∧
      (answer = .failed ↔ ¬ order.Answerable clock) ∧
      ∀ limits window, Rules.budget order.effectiveRules = .ok limits →
        Rules.Readable order.effectiveRules →
        Rules.window order.effectiveRules = .ok window → 1 ≤ window →
        (∀ found, order.sources = .ok found → Survey.checkSkipped limits found = .ok ()) →
        answer.isSettled = true := by
  intro answer
  have settled : answer.isSettled = true ↔ order.Answerable clock := by
    rw [← fulfil_isSettled_iff, ← analyze_of_sound sound]
  have failed : answer = .failed ↔ answer.isSettled = false := by
    have told : answer = _ := (analyze_of_sound sound).trans (fulfil_without_rules_file order)
    rw [told, answerOf_isSettled_eq_false]
  refine ⟨settled, ?_, ?_⟩
  · rw [failed, ← settled, Bool.not_eq_true]
  · intro limits window limited readable windowed positive written
    exact settled.mpr (Order.answerable_of_window limited readable windowed positive written)

/-- A body with one file and a budget. -/
def budgetBody (budget : Value) : Body :=
  .given (.object [("files", .list [.object [("path", .text "a.js"), ("content", .text "")]]),
    ("rules", .object [("budget", budget)])])

def budgetOrder (budget : Value) : Order :=
  ⟨[⟨"a.js", "", none⟩], some [("budget", budget)]⟩

theorem analyze_settled_iff_answerable_without_files_allowed :
    let allowance : Value := .object [("max_files", .int 0)]
    Order.ofBody (budgetBody allowance) = .ok (budgetOrder allowance) ∧
      (analyze .double .double (fun _ => 0) none (budgetBody allowance)).isSettled = true := by
  intro allowance
  have sound : Order.ofBody (budgetBody allowance) = .ok (budgetOrder allowance) := rfl
  obtain ⟨-, -, settled⟩ := analyze_settled_iff_answerable (fun _ => 0) sound
  have readable : Rules.Readable (budgetOrder allowance).effectiveRules :=
    ⟨⟨10, rfl⟩, ⟨20, rfl⟩, ⟨5, rfl⟩, ⟨50, rfl⟩, ⟨0.8, rfl⟩, ⟨_, rfl⟩⟩
  refine ⟨sound, settled _ 5 rfl readable rfl (by decide) ?_⟩
  rintro _ ⟨rfl⟩
  exact if_neg (by decide +kernel)

/-- A budget of null is not passed over, unlike the null of any other section. -/
theorem analyze_fails_on_null_budget :
    Order.ofBody (budgetBody .null) = .ok (budgetOrder .null) ∧
      (analyze .double .double (fun _ => 0) none (budgetBody .null)).status = 500 := by
  exact ⟨rfl, by decide +kernel⟩

end CodeSurvey.Service
