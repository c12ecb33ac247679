import CodeSurvey.Proofs.Finding.Reported
import CodeSurvey.Proofs.Source.DeclaredNames

set_option autoImplicit false

namespace CodeSurvey

open Source

namespace DeadCode

variable {file : SourceFile} {exported : List String} {d : DeadCode}

/-- What a report rests on, by its kind. -/
theorem detect_cases (reported : d ∈ detect file exported) :
    (d.kind = "import" ∧ (∃ b ∈ bindings file.family file.content.toList, b.name = d.name) ∧
      uses (tokens (plainLines file.lines (bindings file.family file.content.toList))) d.name = 0) ∨
    (d.kind = "function" ∧ (∃ f ∈ functions file.family file.content.toList, f.name = d.name) ∧
      uses (tokens file.lines) d.name ≤ 1) ∨
    (d.kind = "variable" ∧ (∃ v ∈ variablesOf file.family file.content.toList, v.name = d.name) ∧
      uses (tokens file.lines) d.name = 1) ∨
    (d.kind = "class" ∧ (∃ c ∈ classes file.family file.content.toList, c.name = d.name) ∧
      uses (tokens file.lines) d.name ≤ 1) := by
  rcases mem_detect.mp reported with ⟨b, declared, none, rfl⟩ | ⟨f, declared, -, -, few, rfl⟩ |
    ⟨v, single, rfl⟩ | ⟨c, declared, -, few, rfl⟩
  · exact .inl ⟨rfl, ⟨b, declared, rfl⟩, none⟩
  · exact .inr (.inl ⟨rfl, ⟨f, declared, rfl⟩, few⟩)
  · exact .inr (.inr (.inl ⟨rfl, ⟨v, single.declared, rfl⟩, single.once⟩))
  · exact .inr (.inr (.inr ⟨rfl, ⟨c, declared, rfl⟩, few⟩))

/-- In a script every reported name is one whole name. -/
theorem detect_isName (known : file.family = some .ecmascript)
    (reported : d ∈ detect file exported) : Name.isName d.name.toList = true := by
  rcases detect_cases reported with ⟨-, ⟨b, declared, same⟩, -⟩ | ⟨-, ⟨f, declared, same⟩, -⟩ |
    ⟨-, ⟨v, declared, same⟩, -⟩ | ⟨-, ⟨c, declared, same⟩, -⟩ <;> rw [known] at declared <;>
      rw [← same]
  · obtain ⟨line, -, named⟩ := exists_of_mem_declaredBy declared
    obtain ⟨found, -, inClause⟩ := exists_of_mem_elim named
    exact Binding.ofClause_isName inClause
  · obtain ⟨line, -, named⟩ := exists_of_mem_functionsFrom declared
    exact ruleNames_isName (fun _ listed => by simp [listed]) named
  · obtain ⟨line, -, named⟩ := exists_of_mem_declaredBy declared
    exact ruleNames_isName (fun _ listed => by simp [listed]) named
  · obtain ⟨line, -, named⟩ := exists_of_mem_declaredBy declared
    exact ruleNames_isName (fun _ listed => by simp [listed]) named

theorem plainLines_sublist (lines : List (List Char)) (imported : List Declared) :
    (plainLines lines imported).Sublist lines := by
  have kept := (List.filter_sublist (p := fun (pair : List Char × Nat) =>
    !(imported.map (·.line)).contains pair.2) (l := lines.zipIdx 1)).map (·.1)
  rwa [List.zipIdx_map_fst] at kept

/-- The whole uses of a name in a file. -/
def usesInFile (file : SourceFile) (family : Family) (name : String) :
    List (List Char × List Char) :=
  wholeUses family name.toList file.lines

/-- The whole uses of a name on the lines of a file that have no import. -/
def usesOutsideImports (file : SourceFile) (family : Family) (name : String) :
    List (List Char × List Char) :=
  wholeUses family name.toList (plainLines file.lines (bindings file.family file.content.toList))

theorem usesOutsideImports_subset (file : SourceFile) (family : Family) (name : String) :
    usesOutsideImports file family name ⊆ usesInFile file family name := by
  intro use member
  obtain ⟨line, listed, here⟩ := List.mem_flatMap.mp member
  exact List.mem_flatMap.mpr ⟨line, (plainLines_sublist _ _).subset listed, here⟩

theorem detect_legible_import (family : Family) (reported : d ∈ detect file exported)
    (kind : d.kind = "import") :
    (usesOutsideImports file family d.name).filter (isLegible d.name.toList) = [] := by
  have read := legible_le_tokens family d.name.toList
    (plainLines file.lines (bindings file.family file.content.toList))
  rcases detect_cases reported with ⟨-, -, none⟩ | ⟨other, -⟩ | ⟨other, -⟩ | ⟨other, -⟩
  · exact List.eq_nil_of_length_eq_zero (Nat.le_zero.mp (none ▸ read))
  all_goals
    rw [kind] at other
    exact absurd other (by decide)

theorem detect_legible_declaration (family : Family) (reported : d ∈ detect file exported)
    (kind : d.kind ≠ "import") :
    ((usesInFile file family d.name).filter (isLegible d.name.toList)).length ≤ 1 := by
  have read := legible_le_tokens family d.name.toList file.lines
  rcases detect_cases reported with ⟨other, -⟩ | ⟨-, -, few⟩ | ⟨-, -, once⟩ | ⟨-, -, few⟩
  · exact absurd other kind
  · exact Nat.le_trans read few
  · exact Nat.le_trans read (Nat.le_of_eq once)
  · exact Nat.le_trans read few

variable {family : Family}

theorem detect_variable_used (known : file.family = some family)
    (reported : d ∈ detect file exported) (kind : d.kind = "variable") :
    usesInFile file family d.name ≠ [] := by
  rcases detect_cases reported with ⟨other, -⟩ | ⟨other, -⟩ | ⟨-, ⟨v, declared, same⟩, -⟩ | ⟨other, -⟩
  case inr.inr.inl =>
    rw [known] at declared
    rw [← same]
    exact variablesOf_wholeUses declared
  all_goals
    rw [kind] at other
    exact absurd other (by decide)

/-- Where all uses of a reported name can be read as tokens: in a script if the name is more than
dollar signs; elsewhere it has to begin as a token, too, and to stand clear of dollar signs that
belong to no name. -/
theorem detect_isLegible (known : file.family = some family) (reported : d ∈ detect file exported)
    (visible : bareName d.name.toList ≠ [])
    (plain : family = .ecmascript ∨ Name.isName d.name.toList = true ∧
      (family = .java ∨ ∀ use ∈ usesInFile file family d.name, standsClear use = true)) :
    ∀ use ∈ usesInFile file family d.name, isLegible d.name.toList use = true := by
  intro use member
  rcases plain with rfl | ⟨isName, java | clear⟩
  · exact isLegible_of_standsClear (detect_isName known reported) visible member
      (standsClear_of_dollar (.inl rfl) member)
  · exact isLegible_of_standsClear isName visible member
      (standsClear_of_dollar (.inr java) member)
  · exact isLegible_of_standsClear isName visible member (clear use member)

/-- The uses of a reported name that can be read as tokens are no more than the report allows: none
outside the imports for an import, the declaration for a function, a class or a variable. Where all
uses of the name can be read so, a name that is used is not reported. -/
theorem detect_overlooks_only_illegible_uses (known : file.family = some family)
    (reported : d ∈ detect file exported) :
    ((d.kind = "import" →
        (usesOutsideImports file family d.name).filter (isLegible d.name.toList) = []) ∧
      (d.kind = "function" ∨ d.kind = "class" →
        ((usesInFile file family d.name).filter (isLegible d.name.toList)).length ≤ 1) ∧
      (d.kind = "variable" → usesInFile file family d.name ≠ [] ∧
        ((usesInFile file family d.name).filter (isLegible d.name.toList)).length ≤ 1)) ∧
    (bareName d.name.toList ≠ [] →
      (family = .ecmascript ∨ Name.isName d.name.toList = true ∧
        (family = .java ∨ ∀ use ∈ usesInFile file family d.name, standsClear use = true)) →
      (d.kind = "import" → usesOutsideImports file family d.name = []) ∧
      (d.kind = "function" ∨ d.kind = "class" → (usesInFile file family d.name).length ≤ 1) ∧
      (d.kind = "variable" → (usesInFile file family d.name).length = 1)) := by
  have imports := detect_legible_import family reported
  have declarations := detect_legible_declaration family reported
  have used := detect_variable_used known reported
  refine ⟨⟨imports, ?_, ?_⟩, ?_⟩
  · rintro (kind | kind) <;> exact declarations (by rw [kind]; decide)
  · intro kind
    exact ⟨used kind, declarations (by rw [kind]; decide)⟩
  · intro visible plain
    have legible := detect_isLegible known reported visible plain
    rw [List.filter_eq_self.mpr fun use member =>
      legible use (usesOutsideImports_subset file family d.name member)] at imports
    rw [List.filter_eq_self.mpr legible] at declarations
    refine ⟨imports, ?_, ?_⟩
    · rintro (kind | kind) <;> exact declarations (by rw [kind]; decide)
    · intro kind
      have present := List.length_pos_iff.mpr (used kind)
      have atMost := declarations (by rw [kind]; decide)
      omega

/-- A script with an import of a dollar sign, which is used, and a variable that is not. -/
def dollarScript : SourceFile :=
  ⟨"page.js", "import $ from 'jquery'\nconst $total = $('#rows').length\n", "js"⟩

theorem detect_overlooks_only_illegible_uses_of_dollar_name :
    ∃ d ∈ detect dollarScript [], d.kind = "variable" ∧ d.name = "$total" ∧
      (usesInFile dollarScript .ecmascript d.name).length = 1 := by
  have found : ∃ d ∈ detect dollarScript [], d.kind = "variable" ∧ d.name = "$total" := by
    decide +kernel
  obtain ⟨d, reported, kind, name⟩ := found
  have known : dollarScript.family = some .ecmascript := by decide +kernel
  have report := (detect_overlooks_only_illegible_uses known reported).2
    (by rw [name]; decide +kernel) (.inl rfl)
  exact ⟨d, reported, kind, name, report.2.2 kind⟩

/-- A name of dollar signs is never read as a token, so its import is reported although it is used. -/
theorem detect_reports_used_dollar_import :
    (∃ d ∈ detect dollarScript [], d.kind = "import" ∧ d.name = "$") ∧
      (usesOutsideImports dollarScript .ecmascript "$").length = 1 := by
  decide +kernel

end DeadCode

end CodeSurvey
