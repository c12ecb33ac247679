import CodeSurvey.Proofs.Graph.FileOrder

set_option autoImplicit false

namespace CodeSurvey

/-- A specifier of the file means the path, among the paths of a project. -/
def SourceFile.Imports (file : SourceFile) (paths : List String) (path : String) : Prop :=
  ∃ specifier ∈ Source.imports file.family file.content.toList,
    Resolution.resolve file.family specifier file.path paths = .resolved path

instance (file : SourceFile) (paths : List String) (path : String) :
    Decidable (file.Imports paths path) :=
  inferInstanceAs (Decidable (∃ specifier ∈ _, _))

theorem Resolution.target?_eq_some {meaning : Resolution} {path : String} :
    meaning.target? = some path ↔ meaning = .resolved path := by
  cases meaning <;> simp [target?]

theorem FileNode.mem_ofFile_dependencies {paths : List String} {file : SourceFile} {path : String} :
    path ∈ (ofFile paths file).dependencies ↔ file.Imports paths path := by
  rw [ofFile_dependencies, List.mem_eraseDups, List.mem_filterMap, ofFile_imports]
  simp only [Resolution.target?_eq_some]
  rfl

namespace NodeMap

variable {files : List SourceFile}

theorem bare_importers (distinct : (files.map (·.path)).Nodup) (path : String) :
    (bare files).importers path =
      (files.filter fun file => file.Imports (files.map (·.path)) path).map (·.path) := by
  rw [bare_of_nodup distinct, importers, List.filter_map, List.map_map]
  simp only [Function.comp_def, FileNode.mem_ofFile_dependencies, FileNode.ofFile_path]

/-- The paths without importers that are no entry points, in the order of the files. -/
theorem build_unused_of_nodup (distinct : (files.map (·.path)).Nodup) :
    (build files).unused = (files.map (·.path)).filter fun path =>
      ((bare files).importers path).isEmpty && !Entry.isEntryPoint path := by
  have paths : (bare files).map (·.path) = files.map (·.path) := by
    rw [bare_of_nodup distinct, List.map_map]
    simp only [Function.comp_def, FileNode.ofFile_path]
  rw [build_unused, ← paths, List.filter_map]
  rfl

end NodeMap

namespace DependencyGraph

/-- Of files with distinct paths those are reported as unused, in their order, that are no entry points
and that no file imports, not even the file itself. -/
theorem mem_unused_iff_no_importer {files : List SourceFile}
    (distinct : (files.map (·.path)).Nodup) :
    (ofFiles files).unused.Sublist (files.map (·.path)) ∧
      ∀ path, path ∈ (ofFiles files).unused ↔
        path ∈ files.map (·.path) ∧ Entry.isEntryPoint path = false ∧
          ∀ file ∈ files, ¬ file.Imports (files.map (·.path)) path := by
  change (NodeMap.build files).unused.Sublist _ ∧ ∀ path, path ∈ (NodeMap.build files).unused ↔ _
  rw [NodeMap.build_unused_of_nodup distinct]
  refine ⟨List.filter_sublist, ?_⟩
  intro path
  have unimported : ((NodeMap.bare files).importers path).isEmpty = true ↔
      ∀ file ∈ files, ¬ file.Imports (files.map (·.path)) path := by
    rw [NodeMap.bare_importers distinct, List.isEmpty_iff, List.map_eq_nil_iff,
      List.filter_eq_nil_iff]
    simp only [decide_eq_true_eq]
  rw [List.mem_filter, Bool.and_eq_true, unimported, Bool.not_eq_true', and_comm (b := _ = false)]

/-- The file of a package that takes a name from the package itself, and so imports itself. -/
def packageFile : SourceFile :=
  ⟨"pkg/__init__.py", "from . import x", "py"⟩

def package : List SourceFile :=
  [packageFile, ⟨"pkg/x.py", "", "py"⟩]

theorem mem_unused_iff_no_importer_of_package :
    (package.map (·.path)).Nodup ∧ "pkg/x.py" ∈ (ofFiles package).unused ∧
      "pkg/__init__.py" ∉ (ofFiles package).unused := by
  have distinct : (package.map (·.path)).Nodup := by decide
  have listed := (mem_unused_iff_no_importer distinct).2
  have own : packageFile.Imports (package.map (·.path)) "pkg/__init__.py" := by decide +kernel
  refine ⟨distinct, (listed _).mpr (by decide +kernel), ?_⟩
  intro reported
  exact ((listed _).mp reported).2.2 packageFile List.mem_cons_self own

/-- The file of the package is no entry point and no other file imports it, yet it is not reported. -/
theorem unused_misses_file_that_imports_itself :
    (package.map (·.path)).Nodup ∧ "pkg/__init__.py" ∈ package.map (·.path) ∧
      Entry.isEntryPoint "pkg/__init__.py" = false ∧
      (∀ file ∈ package, file.path ≠ "pkg/__init__.py" →
        ¬ file.Imports (package.map (·.path)) "pkg/__init__.py") ∧
      "pkg/__init__.py" ∉ (ofFiles package).unused := by
  decide +kernel

end DependencyGraph

end CodeSurvey
