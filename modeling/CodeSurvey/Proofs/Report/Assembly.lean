import CodeSurvey.Proofs.Graph.Imports
import CodeSurvey.Report.Document
import Mathlib.Algebra.BigOperators.Group.List.Lemmas
import Mathlib.Algebra.GroupWithZero.Nat

set_option autoImplicit false

namespace CodeSurvey

/-- A stable sort keeps items between which it sees no difference in their order. -/
theorem filter_mergeSort {α : Type} {le : α → α → Bool}
    (trans : ∀ a b c, le a b = true → le b c = true → le a c = true)
    (total : ∀ a b, (le a b || le b a) = true) (kept : α → Bool)
    (ties : ∀ a b, kept a = true → kept b = true → le a b = true) (items : List α) :
    (items.mergeSort le).filter kept = items.filter kept := by
  have inOrder : (items.filter kept).Pairwise fun a b => le a b = true := by
    rw [List.pairwise_filter]
    exact List.pairwise_of_forall ties
  have sub : (items.filter kept).Sublist ((items.mergeSort le).filter kept) := by
    have filtered := (List.sublist_mergeSort trans total inOrder List.filter_sublist).filter kept
    simpa only [List.filter_filter, Bool.and_self] using filtered
  have length := ((List.mergeSort_perm items le).filter kept).length_eq
  exact (sub.eq_of_length length.symm).symm

/-- The number of findings of a category that do not concern the graph. -/
def Quality.number {σ : Type} (quality : Quality σ) : Category → Nat
  | .duplicate => quality.duplicates.length
  | .deadCode => quality.dead.length
  | .redundant => quality.redundant.length
  | .complexity => quality.complex.length
  | .circular | .missing | .unused => 0

namespace Issue

variable {σ : Type}

/-- A list that is sorted by severity is made of three stretches. -/
theorem eq_stretches_of_sorted {issues : List Issue}
    (sorted : issues.Pairwise fun a b => a.severity.rank ≤ b.severity.rank) :
    issues = issues.filter (·.severity = .error) ++ issues.filter (·.severity = .warning) ++
      issues.filter (·.severity = .info) := by
  induction issues with
  | nil => rfl
  | cons issue rest ih =>
      obtain ⟨least, later⟩ := List.pairwise_cons.mp sorted
      have behind := ih later
      -- nothing behind the first issue is graver than it
      have none_before : ∀ severity : Severity, severity.rank < issue.severity.rank →
          rest.filter (·.severity = severity) = [] := by
        intro severity graver
        rw [List.filter_eq_nil_iff]
        intro other member same
        have bound := least other member
        rw [of_decide_eq_true same] at bound
        omega
      cases grade : issue.severity with
      | error => simpa [grade] using behind
      | warning =>
          have errors := none_before .error (by rw [grade]; decide)
          rw [errors, List.nil_append] at behind
          simpa [grade, errors] using behind
      | info =>
          have errors := none_before .error (by rw [grade]; decide)
          have warnings := none_before .warning (by rw [grade]; decide)
          rw [errors, warnings, List.nil_append, List.nil_append] at behind
          simpa [grade, errors, warnings] using behind

theorem rank_trans (a b c : Issue) (first : decide (a.severity.rank ≤ b.severity.rank) = true)
    (second : decide (b.severity.rank ≤ c.severity.rank) = true) :
    decide (a.severity.rank ≤ c.severity.rank) = true := by
  simp only [decide_eq_true_eq] at first second ⊢
  omega

theorem rank_total (a b : Issue) :
    (decide (a.severity.rank ≤ b.severity.rank) || decide (b.severity.rank ≤ a.severity.rank)) =
      true := by
  simp only [Bool.or_eq_true, decide_eq_true_eq]
  omega

theorem countP_category_map {α : Type} {f : α → Issue} (own : Category)
    (same : ∀ item, (f item).category = own) (items : List α) (category : Category) :
    (items.map f).countP (·.category = category) = if own = category then items.length else 0 := by
  rw [List.countP_map]
  by_cases here : own = category <;> simp [Function.comp_def, same, here]

section

variable (scale : Clone.Scale σ) (errorAt : Int) (found : List DependencyIssue) (quality : Quality σ)

theorem assemble_perm :
    (assemble scale errorAt found quality).Perm (flatten scale errorAt found quality) :=
  List.mergeSort_perm _ _

/-- Every finding gives one issue, and it has the finding's category. -/
theorem countP_category_assemble (category : Category) :
    (assemble scale errorAt found quality).countP (·.category = category) =
      found.countP (·.category = category) + quality.number category := by
  have graph : (found.map ofDependency).countP (·.category = category) =
      found.countP (·.category = category) := List.countP_map
  rw [(assemble_perm scale errorAt found quality).countP_eq, flatten, List.countP_append,
    List.countP_append, List.countP_append, List.countP_append, graph,
    countP_category_map .duplicate fun _ => rfl, countP_category_map .deadCode fun _ => rfl,
    countP_category_map .redundant fun _ => rfl, countP_category_map .complexity fun _ => rfl]
  generalize found.countP _ = onGraph
  cases category <;> simp [Quality.number]

theorem assemble_sorted :
    (assemble scale errorAt found quality).Pairwise fun a b =>
      a.severity.rank ≤ b.severity.rank :=
  (List.pairwise_mergeSort rank_trans rank_total _).imp of_decide_eq_true

theorem filter_assemble (severity : Severity) :
    (assemble scale errorAt found quality).filter (·.severity = severity) =
      (flatten scale errorAt found quality).filter (·.severity = severity) := by
  apply filter_mergeSort rank_trans rank_total
  intro a b first second
  simp only [decide_eq_true_eq] at first second ⊢
  rw [first, second]

/-- The findings by severity, each stretch in the order of the findings. -/
theorem assemble_eq_stretches :
    assemble scale errorAt found quality =
      (flatten scale errorAt found quality).filter (·.severity = .error) ++
        (flatten scale errorAt found quality).filter (·.severity = .warning) ++
        (flatten scale errorAt found quality).filter (·.severity = .info) := by
  rw [eq_stretches_of_sorted (assemble_sorted scale errorAt found quality), filter_assemble,
    filter_assemble, filter_assemble]

end

end Issue

namespace Document

/-- A tally of issues by a word that each of them bears: an object that has every such word once, with
the number of issues that bear it, and in which the numbers add up to that of all issues. -/
def Tallies (word : Issue → String) (issues : List Issue) (tally : Value) : Prop :=
  ∃ entries : List (String × Nat),
    tally = .object (entries.map fun (name, count) => (name, .nat count)) ∧
      (entries.map (·.1)).Nodup ∧
      (∀ name count, (name, count) ∈ entries ↔
        0 < count ∧ count = issues.countP fun issue => word issue = name) ∧
      (entries.map (·.2)).sum = issues.length

theorem counts_names_nodup (names : List String) : ((counts names).map (·.1)).Nodup := by
  rw [counts, List.map_map]
  simpa [Function.comp_def] using eraseDups_nodup names

theorem mem_counts {names : List String} {name : String} {count : Nat} :
    (name, count) ∈ counts names ↔ 0 < count ∧ count = names.count name := by
  rw [counts, List.mem_map]
  constructor
  · rintro ⟨other, member, same⟩
    obtain ⟨rfl, rfl⟩ := Prod.mk.inj same
    exact ⟨List.count_pos_iff.mpr (List.mem_eraseDups.mp member), rfl⟩
  · rintro ⟨positive, rfl⟩
    exact ⟨name, List.mem_eraseDups.mpr (List.count_pos_iff.mp positive), rfl⟩

/-- Each name is counted where it stands first, so the counts make up the whole list. -/
theorem counts_sum (names : List String) : ((counts names).map (·.2)).sum = names.length := by
  have same : names.eraseDups.Perm names.dedup :=
    (List.perm_ext_iff_of_nodup (eraseDups_nodup names) (List.nodup_dedup names)).mpr fun name => by
      rw [List.mem_eraseDups, List.mem_dedup]
  calc
    ((counts names).map (·.2)).sum = (names.eraseDups.map fun name => names.count name).sum := by
      rw [counts, List.map_map]
      rfl
    _ = (names.dedup.map fun name => names.count name).sum := (same.map _).sum_eq
    _ = names.length := List.sum_map_count_dedup_eq_length names

theorem countsValue_tallies (word : Issue → String) (issues : List Issue) :
    Tallies word issues (countsValue (issues.map word)) := by
  refine ⟨counts (issues.map word), rfl, counts_names_nodup _, ?_, ?_⟩
  · intro name count
    rw [mem_counts, List.count_eq_countP, List.countP_map]
    simp only [Function.comp_def, beq_eq_decide]
  · rw [counts_sum, List.length_map]

def field? : Value → String → Option Value
  | .object fields, key => Fields.get? fields key
  | _, _ => none

/-- A report counts issues: in its summary are their number, a tally by severity and a tally by
category. -/
structure CountsIssues (document : Value) (issues : List Issue) : Prop where
  total : (field? document "summary").bind (field? · "totalIssues") = some (.nat issues.length)
  bySeverity : ∃ tally, (field? document "summary").bind (field? · "bySeverity") = some tally ∧
    Tallies (·.severity.name) issues tally
  byCategory : ∃ tally, (field? document "summary").bind (field? · "byCategory") = some tally ∧
    Tallies (·.category.name) issues tally

theorem ofSurvey_countsIssues {σ : Type} {scale : Clone.Scale σ} {survey : Survey σ}
    (inBounds : fault? scale survey.quality = none) :
    ∃ document, ofSurvey scale survey = .ok document ∧ CountsIssues document survey.issues := by
  simp only [ofSurvey, inBounds]
  exact ⟨_, rfl, rfl, ⟨_, rfl, countsValue_tallies _ _⟩, ⟨_, rfl, countsValue_tallies _ _⟩⟩

end Document

namespace Issue

/-- Findings of every kind become issues one by one: first the errors, then the warnings, then the rest,
each in the order of the findings. Unless a finding is out of the bounds of reports, a survey with these
issues has a report that counts them exactly. -/
theorem assemble_keeps_findings_and_counts {σ : Type} (scale : Clone.Scale σ)
    (found : List DependencyIssue) (quality : Quality σ) {rules : Value} {errorAt : Int}
    (converted : Rules.errorAt rules = .ok errorAt) :
    ∃ issues all,
      (Rules.errorAt rules).map (fun errorAt => assemble scale errorAt found quality) = .ok issues ∧
      all = found.map ofDependency ++ quality.duplicates.map (ofDuplicate scale) ++
        quality.dead.map ofDeadCode ++ quality.redundant.map ofRedundant ++
        quality.complex.map (ofComplex errorAt) ∧
      issues = all.filter (·.severity = .error) ++ all.filter (·.severity = .warning) ++
        all.filter (·.severity = .info) ∧
      issues.length = all.length ∧
      (∀ category, issues.countP (·.category = category) =
        found.countP (·.category = category) + quality.number category) ∧
      ∀ survey : Survey σ, survey.issues = issues →
        Document.fault? scale survey.quality = none →
          ∃ document, Document.ofSurvey scale survey = .ok document ∧
            Document.CountsIssues document issues := by
  refine ⟨assemble scale errorAt found quality, flatten scale errorAt found quality, ?_, rfl,
    assemble_eq_stretches scale errorAt found quality,
    (assemble_perm scale errorAt found quality).length_eq,
    countP_category_assemble scale errorAt found quality, ?_⟩
  · rw [converted]
    rfl
  · intro survey same inBounds
    rw [← same]
    exact Document.ofSurvey_countsIssues inBounds

/-- Two findings on a graph. -/
def mixedIssues : List DependencyIssue :=
  [⟨.unused, .warning, "File \"a.js\" is not imported by any other file", ["a.js"]⟩,
   ⟨.missing, .error, "Missing dependency \"./b\" in a.js", ["a.js"]⟩]

/-- Findings of all other kinds, two of them on functions. -/
def mixedQuality : Quality Float :=
  { duplicates := [⟨⟨['x'], 1, 1, "a.js"⟩, ⟨['x'], 3, 3, "c.js"⟩, 1, 1⟩]
    dead := [⟨"function", "f", "a.js", 1, "Function is never called or exported"⟩]
    redundant := [⟨"unused_code", "a.js", 2, "Console statement found", "Remove it"⟩]
    complex := [⟨"a.js", "f", 1, 2⟩, ⟨"a.js", "g", 4, 3⟩] }

def mixedRules : Value :=
  .object [("complexity", .object [("error_at", .int 3)])]

theorem assemble_keeps_findings_and_counts_of_mixed_findings :
    ∃ issues, (Rules.errorAt mixedRules).map
        (fun errorAt => assemble .double errorAt mixedIssues mixedQuality) = .ok issues ∧
      issues.map (fun issue => (issue.category, issue.severity)) =
        [(.missing, .error), (.complexity, .error), (.unused, .warning), (.duplicate, .warning),
          (.deadCode, .warning), (.complexity, .warning), (.redundant, .info)] ∧
      ∃ document, Document.ofSurvey .double
          ⟨⟨[], [], [], []⟩, mixedQuality, mixedIssues, issues, "", false, [], 0⟩ = .ok document ∧
        Document.CountsIssues document issues := by
  have converted : Rules.errorAt mixedRules = .ok 3 := by rfl
  obtain ⟨issues, all, assembled, findings, stretches, -, -, counted⟩ :=
    assemble_keeps_findings_and_counts .double mixedIssues mixedQuality converted
  have inBounds : Document.fault? .double mixedQuality = none := by decide +kernel
  refine ⟨issues, assembled, ?_, counted _ rfl inBounds⟩
  rw [stretches, findings]
  rfl

end Issue

end CodeSurvey
