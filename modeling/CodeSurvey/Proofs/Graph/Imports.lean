import CodeSurvey.Graph.Analysis
import CodeSurvey.Proofs.Graph.Dependents
import CodeSurvey.Proofs.Resolution.Meaning
import Mathlib.Data.List.Basic
import Mathlib.Data.List.Induction

set_option autoImplicit false

namespace CodeSurvey

theorem eraseDups_nodup {α : Type} [BEq α] [LawfulBEq α] (items : List α) :
    items.eraseDups.Nodup := by
  induction items using List.reverseRecOn with
  | nil => exact List.nodup_nil
  | append_singleton front item ih =>
      rw [eraseDups_concat]
      split
      · exact ih
      · rename_i new
        rw [← List.concat_eq_append]
        exact ih.concat new

theorem distinct_nodup (texts : List (List Char)) : (distinct texts).Nodup := by
  rw [distinct, List.Nodup, List.pairwise_map]
  exact (eraseDups_nodup _).imp fun apart same => apart (String.ofList_injective same)

theorem Source.imports_nodup (family : Option Family) (content : List Char) :
    (Source.imports family content).Nodup := by
  cases family with
  | none => exact List.nodup_nil
  | some family => exact distinct_nodup _

/-- The file that a specifier means, if it means one. -/
def Resolution.target? : Resolution → Option String
  | .resolved path => some path
  | _ => none

namespace FileNode

theorem link_dependencies (node : FileNode) (specifier : String) (meaning : Resolution)
    (front : List String) (known : node.dependencies = front.eraseDups) :
    (node.link specifier meaning).dependencies =
      (front ++ meaning.target?.toList).eraseDups := by
  cases meaning with
  | resolved path =>
      rw [Resolution.target?, Option.toList_some, eraseDups_concat, ← known]
      by_cases old : path ∈ node.dependencies <;> simp [link, old]
  | external => simpa [link, Resolution.target?] using known
  | unresolved => simpa [link, Resolution.target?] using known

theorem link_missing (node : FileNode) (specifier : String) (meaning : Resolution) :
    (node.link specifier meaning).missing =
      node.missing ++ [specifier].filter fun _ => meaning = .unresolved := by
  cases meaning with
  | resolved path =>
      simp only [link]
      split <;> simp
  | external => simp [link]
  | unresolved => simp [link]

theorem link_imports (node : FileNode) (specifier : String) (meaning : Resolution) :
    (node.link specifier meaning).imports = node.imports := by
  unfold link
  split
  · split <;> rfl
  · rfl
  · rfl

section

variable (meaning : String → Resolution)

theorem foldl_link_dependencies (specifiers : List String) (node : FileNode)
    (front : List String) (known : node.dependencies = front.eraseDups) :
    (specifiers.foldl (fun node specifier => node.link specifier (meaning specifier))
      node).dependencies =
      (front ++ specifiers.filterMap fun specifier => (meaning specifier).target?).eraseDups := by
  induction specifiers generalizing node front with
  | nil => simpa using known
  | cons specifier rest ih =>
      rw [List.foldl_cons, ih _ _ (link_dependencies node specifier _ front known),
        List.append_assoc, List.filterMap_cons]
      cases (meaning specifier).target? <;> rfl

theorem foldl_link_missing (specifiers : List String) (node : FileNode) :
    (specifiers.foldl (fun node specifier => node.link specifier (meaning specifier))
      node).missing =
      node.missing ++ specifiers.filter fun specifier => meaning specifier = .unresolved := by
  induction specifiers generalizing node with
  | nil => simp
  | cons specifier rest ih =>
      rw [List.foldl_cons, ih, link_missing, List.append_assoc]
      by_cases lost : meaning specifier = .unresolved <;> simp [lost]

theorem foldl_link_imports (specifiers : List String) (node : FileNode) :
    (specifiers.foldl (fun node specifier => node.link specifier (meaning specifier))
      node).imports = node.imports := by
  induction specifiers generalizing node with
  | nil => rfl
  | cons specifier rest ih => rw [List.foldl_cons, ih, link_imports]

end

theorem ofFile_imports (paths : List String) (file : SourceFile) :
    (ofFile paths file).imports = Source.imports file.family file.content.toList := by
  rw [ofFile,
    foldl_link_imports fun specifier => Resolution.resolve file.family specifier file.path paths]

end FileNode

namespace SourceFile

/-- The paths that are tried for a specifier of a file, in order. -/
def tried (file : SourceFile) (specifier : String) : List String :=
  Resolution.triedPaths file.family specifier file.path

/-- Whether a specifier begins with a dot or a slash and none of the paths tried for it is among those
of a project. -/
def lacks (file : SourceFile) (paths : List String) (specifier : String) : Bool :=
  !Resolution.isExternal specifier && (file.tried specifier).all fun path => !paths.contains path

theorem lacks_iff {file : SourceFile} {paths : List String} {specifier : String} :
    file.lacks paths specifier = true ↔
      Resolution.resolve file.family specifier file.path paths = .unresolved := by
  simp [lacks, tried, Resolution.resolve_eq_unresolved_iff]

theorem target?_resolve (file : SourceFile) (paths : List String) (specifier : String) :
    (Resolution.resolve file.family specifier file.path paths).target? =
      if Resolution.isExternal specifier then none
      else (file.tried specifier).find? paths.contains := by
  rw [Resolution.resolve_eq]
  split
  · rfl
  · change (Resolution.firstPresent paths (file.tried specifier)).target? = _
    unfold Resolution.firstPresent
    cases (file.tried specifier).find? paths.contains <;> rfl

end SourceFile

inductive Fate where
  | external
  | resolved
  | missing

def Fate.ofResolution : Resolution → Fate
  | .external => .external
  | .resolved _ => .resolved
  | .unresolved => .missing

namespace FileNode

/-- What the node of a file shows of a specifier of the file. -/
def HasFate (node : FileNode) (file : SourceFile) (paths : List String) (specifier : String) :
    Fate → Prop
  | .external => specifier.toList.head? ≠ some '.' ∧ specifier.toList.head? ≠ some '/'
  | .resolved => ∃ target ∈ node.dependencies,
      Resolution.resolve file.family specifier file.path paths = .resolved target
  | .missing => specifier ∈ node.missing

/-- A node that has sorted the imports of a file. Each has one fate; the dependencies are the first
present of the tried paths and the missing specifiers those without one, both in the order of the
imports and without repeats, and external specifiers do not count. -/
structure SortsImports (node : FileNode) (file : SourceFile) (paths : List String) : Prop where
  imports : node.imports = Source.imports file.family file.content.toList
  fate : ∀ specifier ∈ node.imports, ∃! fate, node.HasFate file paths specifier fate
  dependencies : node.dependencies =
    ((node.imports.filter fun specifier => !Resolution.isExternal specifier).filterMap
      fun specifier => (file.tried specifier).find? paths.contains).eraseDups
  dependenciesOnce : node.dependencies.Nodup
  missing : node.missing = node.imports.filter (file.lacks paths)
  missingOnce : node.missing.Nodup

theorem ofFile_dependencies (paths : List String) (file : SourceFile) :
    (ofFile paths file).dependencies =
      ((ofFile paths file).imports.filterMap fun specifier =>
        (Resolution.resolve file.family specifier file.path paths).target?).eraseDups := by
  rw [ofFile_imports, ofFile,
    foldl_link_dependencies
      (fun specifier => Resolution.resolve file.family specifier file.path paths) _ _ [] rfl,
    List.nil_append]

theorem ofFile_missing (paths : List String) (file : SourceFile) :
    (ofFile paths file).missing = (ofFile paths file).imports.filter (file.lacks paths) := by
  have lost : file.lacks paths = fun specifier =>
      decide (Resolution.resolve file.family specifier file.path paths = .unresolved) := by
    funext specifier
    rw [Bool.eq_iff_iff, decide_eq_true_eq, SourceFile.lacks_iff]
  rw [ofFile_imports, lost, ofFile,
    foldl_link_missing
      (fun specifier => Resolution.resolve file.family specifier file.path paths),
    List.nil_append]

/-- The fate of a specifier is told by what it resolves to. -/
theorem hasFate_iff {paths : List String} {file : SourceFile} {specifier : String}
    (imported : specifier ∈ (ofFile paths file).imports) (fate : Fate) :
    (ofFile paths file).HasFate file paths specifier fate ↔
      fate = .ofResolution (Resolution.resolve file.family specifier file.path paths) := by
  cases fate with
  | external =>
      have external := @Resolution.resolve_eq_external_iff file.family specifier file.path paths
      rw [HasFate, ← Resolution.isExternal_iff, ← external]
      cases Resolution.resolve file.family specifier file.path paths <;> simp [Fate.ofResolution]
  | resolved =>
      constructor
      · rintro ⟨target, -, found⟩
        rw [found]
        rfl
      · intro same
        cases found : Resolution.resolve file.family specifier file.path paths with
        | resolved target =>
            refine ⟨target, ?_, found⟩
            rw [ofFile_dependencies, List.mem_eraseDups, List.mem_filterMap]
            exact ⟨specifier, imported, by rw [found]; rfl⟩
        | external => rw [found] at same; cases same
        | unresolved => rw [found] at same; cases same
  | missing =>
      rw [HasFate, ofFile_missing, List.mem_filter, SourceFile.lacks_iff]
      cases Resolution.resolve file.family specifier file.path paths <;>
        simp [Fate.ofResolution, imported]

theorem existsUnique_fate {paths : List String} {file : SourceFile} {specifier : String}
    (imported : specifier ∈ (ofFile paths file).imports) :
    ∃! fate, (ofFile paths file).HasFate file paths specifier fate := by
  simp only [hasFate_iff imported]
  exact existsUnique_eq

theorem ofFile_sortsImports (paths : List String) (file : SourceFile) :
    (ofFile paths file).SortsImports file paths where
  imports := ofFile_imports paths file
  fate := fun _ imported => existsUnique_fate imported
  dependencies := by
    rw [ofFile_dependencies, List.filterMap_filter]
    simp only [SourceFile.target?_resolve]
    congr 2
    funext specifier
    cases Resolution.isExternal specifier <;> rfl
  dependenciesOnce := (ofFile_dependsWithin paths file).distinct
  missing := ofFile_missing paths file
  missingOnce := by
    rw [ofFile_missing, ofFile_imports]
    exact (Source.imports_nodup _ _).filter _

end FileNode

namespace NodeMap

/-- The files that become nodes: of the files with one path the last one, in the order in which the
paths first came. -/
def kept (files : List SourceFile) : List SourceFile :=
  (files.map (·.path)).eraseDups.filterMap fun path => files.reverse.find? (·.path == path)

theorem filterMap_get? (nodes : NodeMap) (distinct : nodes.paths.Nodup) :
    nodes.paths.filterMap nodes.get? = nodes := by
  rw [paths, List.filterMap_map]
  calc
    nodes.filterMap (nodes.get? ∘ fun node => node.path) = nodes.filterMap some :=
      List.filterMap_congr fun node member => get?_of_mem distinct member
    _ = nodes := List.filterMap_some

theorem bare_eq_kept (files : List SourceFile) :
    bare files = (kept files).map (FileNode.ofFile (files.map (·.path))) := by
  rw [← filterMap_get? (bare files) (bare_paths_nodup files), bare_paths, kept, List.map_filterMap]
  exact List.filterMap_congr fun path _ => bare_get? files path

theorem kept_paths (files : List SourceFile) :
    (kept files).map (·.path) = (build files).paths := by
  rw [build_paths, bare_eq_kept, paths, List.map_map]
  simp only [Function.comp_def, FileNode.ofFile_path]

theorem build_sortsImports {files : List SourceFile} {node : FileNode}
    (member : node ∈ build files) :
    ∃ file, files.reverse.find? (·.path == node.path) = some file ∧
      node.SortsImports file (files.map (·.path)) := by
  rw [build_eq, List.mem_map] at member
  obtain ⟨source, present, rfl⟩ := member
  obtain ⟨file, last, same⟩ := bare_ofFile files source present
  have sorts := FileNode.ofFile_sortsImports (files.map (·.path)) file
  rw [← same] at sorts
  exact ⟨file, last, sorts.imports, sorts.fate, sorts.dependencies, sorts.dependenciesOnce,
    sorts.missing, sorts.missingOnce⟩

/-- The specifiers without a file are reported file by file, in the order of the imports. -/
theorem build_missing (files : List SourceFile) :
    (build files).missing = (kept files).flatMap fun file =>
      ((Source.imports file.family file.content.toList).filter
        (file.lacks (files.map (·.path)))).map fun specifier => ⟨file.path, specifier⟩ := by
  rw [missing, build_eq, List.flatMap_map]
  change ((bare files).flatMap fun node =>
    node.missing.map fun specifier => (⟨node.path, specifier⟩ : MissingDependency)) = _
  rw [bare_eq_kept, List.flatMap_map]
  simp only [FileNode.ofFile_path, FileNode.ofFile_missing, FileNode.ofFile_imports]

theorem build_missing_nodup (files : List SourceFile) : (build files).missing.Nodup := by
  rw [missing, List.Nodup, List.pairwise_flatMap]
  constructor
  · intro node member
    obtain ⟨_, -, sorts⟩ := build_sortsImports member
    rw [List.pairwise_map]
    exact sorts.missingOnce.imp fun apart same => apart (congrArg MissingDependency.specifier same)
  · have distinct : (build files).paths.Nodup := by
      rw [build_paths]
      exact bare_paths_nodup files
    rw [paths, List.Nodup, List.pairwise_map] at distinct
    apply distinct.imp
    intro first second apart one fromFirst other fromSecond same
    obtain ⟨_, -, rfl⟩ := List.mem_map.mp fromFirst
    obtain ⟨_, -, rfl⟩ := List.mem_map.mp fromSecond
    exact apart (congrArg MissingDependency.file same)

/-- Every node has sorted the imports of the last file with its path. What is reported as missing is,
for each of these files in the order of the nodes, the imports that begin with a dot or a slash and of
whose tried paths none is a file, in the order of the imports and none twice. -/
theorem build_imports_partitioned (files : List SourceFile) :
    (∀ node ∈ build files, ∃ file, files.reverse.find? (·.path == node.path) = some file ∧
      node.SortsImports file (files.map (·.path))) ∧
    (kept files).map (·.path) = (build files).map (·.path) ∧
    ((build files).missing = (kept files).flatMap fun file =>
      ((Source.imports file.family file.content.toList).filter
        (file.lacks (files.map (·.path)))).map fun specifier => ⟨file.path, specifier⟩) ∧
    (build files).missing.Nodup :=
  ⟨fun _ member => build_sortsImports member, kept_paths files, build_missing files,
    build_missing_nodup files⟩

end NodeMap

end CodeSurvey
