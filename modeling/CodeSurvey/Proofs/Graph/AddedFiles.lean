import CodeSurvey.Proofs.Graph.FileOrder

/-!
Files that are added to a project. The first present one of the paths tried for a specifier can only
move forward when there are more files, so an import that was resolved stays resolved, and one that is
missing was missing before.
-/

set_option autoImplicit false

namespace CodeSurvey

/-- A list that has the given files in their order and, before, between and behind them, files with
paths of their own. -/
def SourceFile.Extends (larger files : List SourceFile) : Prop :=
  larger.filter (fun file => (files.map (·.path)).contains file.path) = files

instance (larger files : List SourceFile) : Decidable (SourceFile.Extends larger files) :=
  inferInstanceAs (Decidable (_ = _))

namespace SourceFile.Extends

variable {larger files : List SourceFile}

theorem paths_subset (extended : Extends larger files) :
    files.map (·.path) ⊆ larger.map (·.path) := by
  have sub : files.Sublist larger := by
    rw [← extended]
    exact List.filter_sublist
  exact (sub.map _).subset

/-- An old path keeps its last file. -/
theorem last_of_path (extended : Extends larger files) {path : String}
    (known : path ∈ files.map (·.path)) :
    larger.reverse.find? (·.path == path) = files.reverse.find? (·.path == path) := by
  have old : files.reverse =
      larger.reverse.filter fun file => (files.map (·.path)).contains file.path := by
    rw [List.filter_reverse, extended]
  rw [old, List.find?_filter]
  congr 1
  funext file
  by_cases same : file.path = path
  · simp only [same, BEq.rfl, and_true, List.contains_iff_mem, known, decide_true]
  · simp [same]

end SourceFile.Extends

namespace Resolution

/-- Among more files the first present path is the same one or an earlier one. -/
theorem find?_of_more_files {files more : List String} (added : files ⊆ more) {paths : List String}
    {path : String} (found : paths.find? files.contains = some path) :
    ∃ other, paths.find? more.contains = some other ∧
      (other = path ∨ paths.idxOf other < paths.idxOf path) := by
  induction paths with
  | nil => cases found
  | cons first rest ih =>
      by_cases now : first ∈ more
      · refine ⟨first, List.find?_cons_of_pos (by simpa using now), ?_⟩
        by_cases same : first = path
        · exact .inl same
        · right
          rw [List.idxOf_cons_self, List.idxOf_cons_ne _ same]
          omega
      · have before : first ∉ files := fun old => now (added old)
        rw [List.find?_cons_of_neg (by simpa using before)] at found
        obtain ⟨other, present, place⟩ := ih found
        refine ⟨other, ?_, ?_⟩
        · rw [List.find?_cons_of_neg (by simpa using now), present]
        · have notOther : first ≠ other := by
            rintro rfl
            exact now (by simpa using List.find?_some present)
          have notPath : first ≠ path := by
            rintro rfl
            exact before (by simpa using List.find?_some found)
          rw [List.idxOf_cons_ne _ notOther, List.idxOf_cons_ne _ notPath]
          exact place.imp_right Nat.succ_lt_succ

theorem resolve_of_more_files {files more : List String} (added : files ⊆ more)
    {family : Option Family} {specifier importer path : String}
    (resolved : resolve family specifier importer files = .resolved path) :
    ∃ other, resolve family specifier importer more = .resolved other ∧
      (other = path ∨ (triedPaths family specifier importer).idxOf other <
        (triedPaths family specifier importer).idxOf path) := by
  obtain ⟨inside, found⟩ := resolve_eq_resolved_iff.mp resolved
  obtain ⟨other, present, place⟩ := find?_of_more_files added found
  exact ⟨other, resolve_eq_resolved_iff.mpr ⟨inside, present⟩, place⟩

end Resolution

theorem SourceFile.lacks_of_more_files {files more : List String} (added : files ⊆ more)
    (file : SourceFile) (specifier : String) (lacking : file.lacks more specifier = true) :
    file.lacks files specifier = true := by
  rw [lacks_iff, Resolution.resolve_eq_unresolved_iff] at lacking ⊢
  exact ⟨lacking.1, fun path tried present => lacking.2 path tried (added present)⟩

namespace NodeMap

/-- With files added, what a specifier of an old file was resolved to is the same file or one that is
tried before it, external specifiers stay external, and the node of an old path misses no specifier
that it did not miss before. -/
theorem build_keeps_imports {larger files : List SourceFile}
    (extended : SourceFile.Extends larger files) :
    (∀ file ∈ files, ∀ specifier,
      (∀ path, Resolution.resolve file.family specifier file.path (files.map (·.path)) =
          .resolved path →
        ∃ other, Resolution.resolve file.family specifier file.path (larger.map (·.path)) =
            .resolved other ∧
          (other = path ∨
            (file.tried specifier).idxOf other < (file.tried specifier).idxOf path)) ∧
      (Resolution.resolve file.family specifier file.path (files.map (·.path)) = .external →
        Resolution.resolve file.family specifier file.path (larger.map (·.path)) = .external)) ∧
    ∀ node ∈ build files, ∃ other, (build larger).get? node.path = some other ∧
      other.imports = node.imports ∧ other.missing.Sublist node.missing := by
  refine ⟨?_, ?_⟩
  · intro file _ specifier
    refine ⟨fun path => Resolution.resolve_of_more_files extended.paths_subset, ?_⟩
    intro external
    rwa [Resolution.resolve_eq_external_iff] at external ⊢
  · intro node member
    obtain ⟨file, last, sorts⟩ := build_sortsImports member
    have known : node.path ∈ files.map (·.path) := by
      rw [← show file.path = node.path by simpa using List.find?_some last]
      exact List.mem_map_of_mem (List.mem_reverse.mp (List.mem_of_find?_eq_some last))
    have imports : (FileNode.ofFile (larger.map (·.path)) file).imports = node.imports := by
      rw [FileNode.ofFile_imports, sorts.imports]
    have missing : (FileNode.ofFile (larger.map (·.path)) file).missing.Sublist node.missing := by
      rw [FileNode.ofFile_missing, FileNode.ofFile_imports, sorts.missing, sorts.imports]
      exact List.monotone_filter_right _
        (SourceFile.lacks_of_more_files extended.paths_subset file)
    rw [build_get?, bare_get?, extended.last_of_path known, last, Option.map_some, Option.map_some]
    generalize FileNode.ofFile (larger.map (·.path)) file = fresh at imports missing ⊢
    exact ⟨_, rfl, imports, missing⟩

/-- A file with one import that is resolved, one that is missing and one that is external. -/
def importer : SourceFile :=
  ⟨"a.js", "import './b'; import './c'; import 'd'", "js"⟩

def firstFiles : List SourceFile :=
  [importer, ⟨"b.ts", "", "ts"⟩]

/-- The same with a file that is tried before the old target, and with the missing file. -/
def moreFiles : List SourceFile :=
  [⟨"b.js", "", "js"⟩] ++ firstFiles ++ [⟨"c.js", "", "js"⟩]

theorem build_keeps_imports_of_first_files :
    SourceFile.Extends moreFiles firstFiles ∧
      ((build firstFiles).map (·.dependencies) = [["b.ts"], []] ∧
        (build firstFiles).map (·.missing) = [["./c"], []]) ∧
      (∃ other, Resolution.resolve importer.family "./b" "a.js" (moreFiles.map (·.path)) =
        .resolved other ∧ (other = "b.ts" ∨
          (importer.tried "./b").idxOf other < (importer.tried "./b").idxOf "b.ts")) ∧
      (build moreFiles).map (·.dependencies) = [[], ["b.js", "c.js"], [], []] := by
  have extended : SourceFile.Extends moreFiles firstFiles := by decide
  have before : Resolution.resolve importer.family "./b" "a.js" (firstFiles.map (·.path)) =
      .resolved "b.ts" := by decide +kernel
  have kept := ((build_keeps_imports extended).1 importer List.mem_cons_self "./b").1 "b.ts" before
  exact ⟨extended, by decide +kernel, kept, by decide +kernel⟩

end NodeMap

end CodeSurvey
