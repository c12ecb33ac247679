import CodeSurvey.Proofs.Finding.Reported
import CodeSurvey.Report.Document

set_option autoImplicit false

namespace CodeSurvey

/-- The file has a line of that number. -/
def SourceFile.HasLine (file : SourceFile) (line : Int) : Prop :=
  1 ≤ line ∧ line ≤ file.lines.length

namespace Source

theorem declaredBy_line {find : List Char → List (List Char)} {content : List Char} {d : Declared}
    (member : d ∈ declaredBy find content) :
    1 ≤ d.line ∧ d.line ≤ (Text.lines content).length := by
  rw [declaredBy, List.mem_flatMap] at member
  obtain ⟨⟨line, number⟩, numbered, named⟩ := member
  obtain ⟨name, -, rfl⟩ := List.mem_map.mp named
  have bounds := List.mem_zipIdx numbered
  change 1 ≤ number ∧ number ≤ _
  omega

theorem functionsFrom_line {family : Family} {all rest : List (List Char)} {start : Nat}
    {f : Function} (member : f ∈ functionsFrom family all rest start) :
    start + 1 ≤ f.line ∧ f.line ≤ start + rest.length := by
  induction rest generalizing start with
  | nil => cases member
  | cons line rest ih =>
      rw [functionsFrom, List.mem_append] at member
      rw [List.length_cons]
      rcases member with here | later
      · split at here
        · cases here
        · obtain ⟨name, -, rfl⟩ := List.mem_map.mp here
          change start + 1 ≤ start + 1 ∧ start + 1 ≤ _
          omega
      · have bounds := ih later
        omega

theorem functions_line {family : Option Family} {content : List Char} {f : Function}
    (member : f ∈ functions family content) :
    1 ≤ f.line ∧ f.line ≤ (Text.lines content).length := by
  cases family with
  | none => cases member
  | some family =>
      have bounds := functionsFrom_line member
      omega

theorem declared_line {family : Option Family} {find : Family → List Char → List (List Char)}
    {content : List Char} {d : Declared}
    (member : d ∈ family.elim [] fun family => declaredBy (find family) content) :
    1 ≤ d.line ∧ d.line ≤ (Text.lines content).length := by
  cases family with
  | none => cases member
  | some family => exact declaredBy_line member

theorem le_foldl_add {α : Type} (count : α → Nat) (items : List α) (start : Nat) :
    start ≤ items.foldl (fun sum item => sum + count item) start := by
  induction items generalizing start with
  | nil => exact Nat.le_refl start
  | cons item rest ih => exact Nat.le_trans (Nat.le_add_right start (count item)) (ih _)

theorem one_le_complexity (code : List Char) : 1 ≤ complexity code :=
  le_foldl_add _ decisions 1

end Source

open Source

/-- Dead code is of a known kind, and on a line of its file. -/
theorem DeadCode.detect_line {file : SourceFile} {exported : List String} {d : DeadCode}
    (member : d ∈ detect file exported) :
    d.kind ∈ Document.deadKinds ∧ d.file = file.path ∧ file.HasLine d.line := by
  unfold SourceFile.HasLine SourceFile.lines
  rcases mem_detect.mp member with ⟨b, found, -, rfl⟩ | ⟨f, found, -, -, -, rfl⟩ | ⟨v, single, rfl⟩ |
    ⟨c, found, -, -, rfl⟩
  · have bounds := declared_line found
    exact ⟨by simp [Document.deadKinds], rfl, by dsimp only; omega⟩
  · have bounds := functions_line found
    exact ⟨by simp [Document.deadKinds], rfl, by dsimp only; omega⟩
  · have bounds := declared_line single.declared
    exact ⟨by simp [Document.deadKinds], rfl, by dsimp only; omega⟩
  · have bounds := declared_line found
    exact ⟨by simp [Document.deadKinds], rfl, by dsimp only; omega⟩

/-- A complex function begins on a line of its file, and its complexity is at least one. -/
theorem ComplexFunction.detect_line {file : SourceFile} {warnAt : Int} {c : ComplexFunction}
    (member : c ∈ detect file warnAt) :
    c.file = file.path ∧ file.HasLine c.line ∧ 1 ≤ c.complexity := by
  simp only [detect, scores, List.mem_map, List.mem_filter] at member
  obtain ⟨⟨f, score⟩, ⟨⟨g, found, scored⟩, -⟩, rfl⟩ := member
  obtain ⟨rfl, rfl⟩ := Prod.mk.inj scored
  have bounds := functions_line found
  have least := one_le_complexity g.body.toList
  unfold SourceFile.HasLine SourceFile.lines
  exact ⟨rfl, by dsimp only; omega, by dsimp only; omega⟩

namespace Redundant

theorem detectFrom_line {checks : List RedundancyRule} {path : String}
    {before : Option (List Char)} {number : Nat} {lines : List (List Char)} {r : Redundant}
    (member : r ∈ detectFrom checks path before number lines) :
    (∃ rule ∈ checks, r.kind = rule.kind) ∧ r.file = path ∧
      (number : Int) ≤ r.line ∧ r.line < number + lines.length := by
  induction lines generalizing before number with
  | nil => cases member
  | cons line rest ih =>
      rw [detectFrom, List.mem_append] at member
      rw [List.length_cons]
      rcases member with here | later
      · obtain ⟨rule, kept, rfl⟩ := List.mem_map.mp here
        refine ⟨⟨rule, (List.mem_filter.mp kept).1, rfl⟩, rfl, ?_⟩
        dsimp only
        omega
      · obtain ⟨kind, named, bounds⟩ := ih later
        refine ⟨kind, named, ?_⟩
        omega

theorem rules_kind {family : Family} {rule : RedundancyRule} (member : rule ∈ rules family) :
    rule.kind ∈ Document.redundantKinds := by
  revert rule
  cases family <;> simp [rules, Document.redundantKinds, alwaysTrue, alwaysFalse, doubleNegation,
    consoleCall, printCall, dumpCall, plainTrue, plainFalse, emptyPass]

/-- A redundant line is of a known kind, and a line of its file. -/
theorem detect_line {file : SourceFile} {r : Redundant} (member : r ∈ detect file) :
    r.kind ∈ Document.redundantKinds ∧ r.file = file.path ∧ file.HasLine r.line := by
  unfold detect at member
  cases known : file.family with
  | none =>
      rw [known] at member
      cases member
  | some family =>
      rw [known] at member
      obtain ⟨⟨rule, checked, same⟩, named, bounds⟩ := detectFrom_line member
      refine ⟨same ▸ rules_kind checked, named, ?_⟩
      unfold SourceFile.HasLine
      omega

end Redundant

end CodeSurvey
