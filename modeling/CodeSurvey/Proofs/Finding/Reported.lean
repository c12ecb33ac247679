import CodeSurvey.Finding.DeadCode

set_option autoImplicit false

namespace CodeSurvey.DeadCode

open Source

variable {file : SourceFile} {exported : List String} {d : DeadCode}

/-- A variable that is no function of its line, and whose name is not reserved and occurs once in the
file. -/
structure OccursOnce (file : SourceFile) (v : Declared) : Prop where
  declared : v ∈ variablesOf file.family file.content.toList
  noFunction : ∀ f ∈ functions file.family file.content.toList, f.name = v.name → f.line ≠ v.line
  plain : isReserved file.family v.name = false
  once : uses (tokens file.lines) v.name = 1

theorem mem_deadImports : d ∈ deadImports file ↔
    ∃ b ∈ bindings file.family file.content.toList,
      uses (tokens (plainLines file.lines (bindings file.family file.content.toList))) b.name = 0 ∧
        d = ⟨"import", b.name, file.path, b.line, "Import is never used in this file"⟩ := by
  simp only [deadImports, List.mem_map, List.mem_filter, beq_iff_eq, and_assoc, eq_comm (a := d)]

theorem mem_deadFunctions {found : List (List Char)} {functions : List Function} :
    d ∈ deadFunctions file found exported functions ↔
      ∃ f ∈ functions, isReserved file.family f.name = false ∧ f.name ∉ exported ∧
        uses found f.name ≤ 1 ∧
          d = ⟨"function", f.name, file.path, f.line, "Function is never called or exported"⟩ := by
  simp only [deadFunctions, List.mem_map, List.mem_filter, Bool.and_eq_true, Bool.not_eq_true',
    List.contains_eq_mem, decide_eq_false_iff_not, decide_eq_true_eq, and_assoc, eq_comm (a := d)]

theorem mem_deadVariables :
    d ∈ deadVariables file (tokens file.lines) (functions file.family file.content.toList) ↔
      ∃ v, OccursOnce file v ∧
        d = ⟨"variable", v.name, file.path, v.line, "Variable is declared but never used"⟩ := by
  simp only [deadVariables, List.mem_map, List.mem_filter, Bool.and_eq_true, Bool.not_eq_true',
    List.any_eq_false, beq_iff_eq, not_and, eq_comm (a := d)]
  constructor
  · rintro ⟨v, ⟨declared, ⟨noFunction, plain⟩, once⟩, told⟩
    exact ⟨v, ⟨declared, noFunction, plain, once⟩, told⟩
  · rintro ⟨v, ⟨declared, noFunction, plain, once⟩, told⟩
    exact ⟨v, ⟨declared, ⟨noFunction, plain⟩, once⟩, told⟩

theorem mem_deadClasses {found : List (List Char)} :
    d ∈ deadClasses file found exported ↔
      ∃ c ∈ classes file.family file.content.toList, c.name ∉ exported ∧ uses found c.name ≤ 1 ∧
        d = ⟨"class", c.name, file.path, c.line, "Class is never referenced or exported"⟩ := by
  simp only [deadClasses, List.mem_map, List.mem_filter, Bool.and_eq_true, Bool.not_eq_true',
    List.contains_eq_mem, decide_eq_false_iff_not, decide_eq_true_eq, and_assoc, eq_comm (a := d)]

/-- The reports on a file, by their kind. -/
theorem mem_detect : d ∈ detect file exported ↔
    (∃ b ∈ bindings file.family file.content.toList,
      uses (tokens (plainLines file.lines (bindings file.family file.content.toList))) b.name = 0 ∧
        d = ⟨"import", b.name, file.path, b.line, "Import is never used in this file"⟩) ∨
    (∃ f ∈ functions file.family file.content.toList, isReserved file.family f.name = false ∧
      f.name ∉ exported ∧ uses (tokens file.lines) f.name ≤ 1 ∧
        d = ⟨"function", f.name, file.path, f.line, "Function is never called or exported"⟩) ∨
    (∃ v, OccursOnce file v ∧
      d = ⟨"variable", v.name, file.path, v.line, "Variable is declared but never used"⟩) ∨
    (∃ c ∈ classes file.family file.content.toList, c.name ∉ exported ∧
      uses (tokens file.lines) c.name ≤ 1 ∧
        d = ⟨"class", c.name, file.path, c.line, "Class is never referenced or exported"⟩) := by
  rw [← mem_deadImports, ← mem_deadFunctions, ← mem_deadVariables, ← mem_deadClasses, detect]
  simp only [List.mem_append, or_assoc]

theorem detect_spares_exported (reported : d ∈ detect file exported)
    (kind : d.kind = "function" ∨ d.kind = "class") : d.name ∉ exported := by
  rcases mem_detect.mp reported with ⟨b, -, -, rfl⟩ | ⟨f, -, -, unexported, -, rfl⟩ | ⟨v, -, rfl⟩ |
    ⟨c, -, unexported, -, rfl⟩
  · simp at kind
  · exact unexported
  · simp at kind
  · exact unexported

theorem detect_variable_iff {name : String} {line : Nat} :
    (∃ d ∈ detect file exported, d.kind = "variable" ∧ d.name = name ∧ d.line = line) ↔
      OccursOnce file ⟨name, line⟩ := by
  constructor
  · rintro ⟨d, reported, kind, named, place⟩
    rcases mem_detect.mp reported with ⟨b, -, -, rfl⟩ | ⟨f, -, -, -, -, rfl⟩ | ⟨v, once, rfl⟩ |
      ⟨c, -, -, -, rfl⟩
    · simp at kind
    · simp at kind
    · cases named
      cases Int.ofNat.inj place
      exact once
    · simp at kind
  · intro once
    exact ⟨_, mem_detect.mpr (.inr (.inr (.inl ⟨_, once, rfl⟩))), rfl, rfl, rfl⟩

end CodeSurvey.DeadCode
