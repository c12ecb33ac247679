import CodeSurvey.Proofs.Graph.Imports
import CodeSurvey.Proofs.Path.Normal
import CodeSurvey.Proofs.Source.Collection

/-!
Imports of files in the same directory. The paths that are tried for a specifier are in normal form,
while files keep the spelling of their paths; a sibling is therefore found just if the directory is
spelled in normal form.
-/

set_option autoImplicit false

namespace CodeSurvey

open CodeSurvey.Path

namespace Resolution

theorem extension_shape : ∀ extension ∈ extensions,
    '/' ∉ extension.toList ∧ 2 < extension.toList.length := by
  decide

theorem indexFile_shape : ∀ index ∈ indexFiles,
    '/' ∉ index.toList ∧ IsName index.toList := by
  decide

theorem candidates_isNormal {normal : String} (formed : normal = "" ∨ IsNormal normal)
    {path : String} (member : path ∈ candidates normal) : IsNormal path := by
  unfold candidates at member
  split at member
  · obtain ⟨flat, named⟩ := indexFile_shape path member
    exact (isNormal_within none flat named).mpr (by simp)
  · rename_i filled
    have names : IsNormal normal := formed.resolve_left fun empty => filled (by rw [empty]; rfl)
    rcases List.mem_append.mp member with file | index
    · rcases List.mem_cons.mp file with rfl | extended
      · exact names
      · obtain ⟨extension, listed, rfl⟩ := List.mem_map.mp extended
        obtain ⟨flat, long⟩ := extension_shape extension listed
        exact isNormal_append names flat long
    · obtain ⟨name, listed, rfl⟩ := List.mem_map.mp index
      obtain ⟨flat, named⟩ := indexFile_shape name listed
      exact (isNormal_within (some normal) flat named).mpr (by simpa using names)

/-- The path itself is tried first. -/
theorem find?_candidates {normal : String} {files : List String} (filled : normal ≠ "")
    (present : normal ∈ files) : (candidates normal).find? files.contains = some normal := by
  have some : normal.isEmpty = false := by
    rw [← Bool.not_eq_true, String.isEmpty_iff]
    exact filled
  rw [candidates, some, if_neg Bool.false_ne_true, List.cons_append, List.find?_cons_of_pos]
  simpa using present

/-- A specifier that goes on with a slash is no relative module. -/
theorem relativeModule?_dot_slash (name : List Char) :
    relativeModule? ('.' :: '/' :: name) = none := by
  have slash : Import.isDotted '/' = false := by decide
  cases name with
  | nil => simp [relativeModule?, slash]
  | cons c rest =>
      by_cases newline : (c :: rest).getLast? = some '\n' <;>
        simp [relativeModule?, newline, slash]

theorem asPath_dot_slash (family : Option Family) (name : String) :
    asPath family ("./" ++ name) = "./" ++ name := by
  unfold asPath
  split
  · rw [modulePath, dot_slash_toList, relativeModule?_dot_slash]
  · rfl

theorem importerDirectory_of_forward {importer : String} (forward : SourceFile.Forward importer) :
    importerDirectory importer = Path.directory importer := by
  rw [importerDirectory, SourceFile.forwardSlashes_of_forward forward]

section

variable {directory : Option String} {here name : String} {files : List String}

theorem triedPaths_sibling (family : Option Family) (name : String)
    (forward : SourceFile.Forward (within directory here)) (flat : '/' ∉ here.toList) :
    triedPaths family ("./" ++ name) (within directory here) =
      candidates (normalize (directory.getD "") ("./" ++ name)) := by
  rw [triedPaths, asPath_dot_slash, importerDirectory_of_forward forward, directory_within _ flat]

/-- A file of the same directory is found just if the directory is spelled in normal form. -/
theorem resolve_sibling_iff (family : Option Family)
    (forward : SourceFile.Forward (within directory here)) (hereFlat : '/' ∉ here.toList)
    (flat : '/' ∉ name.toList) (named : IsName name.toList)
    (present : within directory name ∈ files) :
    resolve family ("./" ++ name) (within directory here) files =
        .resolved (within directory name) ↔
      ∀ above ∈ directory, IsNormal above := by
  have inside : isExternal ("./" ++ name) = false :=
    not_isExternal_of_dot (dot_slash_toList name)
  rw [resolve_eq_resolved_iff, triedPaths_sibling family name forward hereFlat]
  constructor
  · rintro ⟨-, found⟩
    rw [← isNormal_within directory flat named]
    exact candidates_isNormal (normalize_isNormal _ _) (List.mem_of_find?_eq_some found)
  · intro normal
    refine ⟨inside, ?_⟩
    have formed := (isNormal_within directory flat named).mpr normal
    rw [normalize_sibling flat named normal]
    exact find?_candidates formed.ne_empty present

end

end Resolution

namespace DependencyGraph

/-- In an accepted collection, what a file calls by a dot, a slash and the name of a file in its own
directory is that file, in whatever language, just if there is no directory or its path is in normal
form. Then it is not reported as missing. -/
theorem sibling_resolved_iff {given : Value} {files : List SourceFile}
    (accepted : SourceFile.collectValue given = .ok files) {importer sibling : SourceFile}
    (importing : importer ∈ files) (imported : sibling ∈ files) {directory : Option String}
    {here name : String} (importerPath : importer.path = within directory here)
    (siblingPath : sibling.path = within directory name) (hereFlat : '/' ∉ here.toList)
    (flat : '/' ∉ name.toList) (named : IsName name.toList) :
    (∀ family, Resolution.resolve family ("./" ++ name) importer.path (files.map (·.path)) =
        .resolved sibling.path ↔ ∀ above ∈ directory, IsNormal above) ∧
      ((∀ above ∈ directory, IsNormal above) →
        ⟨importer.path, "./" ++ name⟩ ∉ (ofFiles files).missing) := by
  have forward := SourceFile.collectValue_forward accepted importing
  have present : sibling.path ∈ files.map (·.path) := List.mem_map_of_mem imported
  rw [importerPath] at forward
  rw [siblingPath] at present
  have found : ∀ family, Resolution.resolve family ("./" ++ name) importer.path
      (files.map (·.path)) = .resolved sibling.path ↔ ∀ above ∈ directory, IsNormal above := by
    intro family
    rw [importerPath, siblingPath]
    exact Resolution.resolve_sibling_iff family forward hereFlat flat named present
  refine ⟨found, ?_⟩
  intro normal reported
  change _ ∈ (NodeMap.build files).missing at reported
  rw [NodeMap.build_missing, List.mem_flatMap] at reported
  obtain ⟨file, -, listed⟩ := reported
  obtain ⟨specifier, lost, same⟩ := List.mem_map.mp listed
  obtain ⟨path, rfl⟩ := MissingDependency.mk.inj same
  have unresolved := SourceFile.lacks_iff.mp (List.mem_filter.mp lost).2
  rw [path, (found file.family).mpr normal] at unresolved
  cases unresolved

/-- Two files of one directory, the first of which imports the second. -/
def siblings (directory : String) : List SourceFile :=
  [⟨directory ++ "/a.js", "import './b.js'", "js"⟩, ⟨directory ++ "/b.js", "", "js"⟩]

theorem sibling_resolved_iff_in_source_directory :
    SourceFile.collectValue (SourceFile.asCollection (siblings "src")) = .ok (siblings "src") ∧
      (∀ family, Resolution.resolve family "./b.js" "src/a.js" ["src/a.js", "src/b.js"] =
        .resolved "src/b.js") ∧
      ⟨"src/a.js", "./b.js"⟩ ∉ (ofFiles (siblings "src")).missing := by
  have accepted : SourceFile.collectValue (SourceFile.asCollection (siblings "src")) =
      .ok (siblings "src") := rfl
  have normal : ∀ above ∈ some "src", IsNormal above := by
    rintro above ⟨⟩
    decide
  obtain ⟨found, reported⟩ := @sibling_resolved_iff _ _ accepted
    ⟨"src/a.js", "import './b.js'", "js"⟩ ⟨"src/b.js", "", "js"⟩ (by decide) (by decide)
    (some "src") "a.js" "b.js" rfl rfl (by decide) (by decide) (by decide)
  exact ⟨accepted, fun family => (found family).mpr normal, reported normal⟩

/-- A directory that is spelled as a dot is lost from the paths that are tried, so a file in it does not
find its sibling and reports it as missing. -/
theorem sibling_missed_in_dotted_directory :
    SourceFile.collectValue (SourceFile.asCollection (siblings ".")) = .ok (siblings ".") ∧
      (siblings ".").map (·.path) = [within (some ".") "a.js", within (some ".") "b.js"] ∧
      '/' ∉ "b.js".toList ∧ IsName "b.js".toList ∧
      Resolution.resolve (Family.ofTag? "js") "./b.js" "./a.js" ["./a.js", "./b.js"] =
        .unresolved ∧
      ⟨"./a.js", "./b.js"⟩ ∈ (ofFiles (siblings ".")).missing :=
  ⟨rfl, rfl, by decide, by decide, by decide +kernel, by decide +kernel⟩

end DependencyGraph

end CodeSurvey
