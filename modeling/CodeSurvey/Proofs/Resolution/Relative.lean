import CodeSurvey.Proofs.Path.Composition
import CodeSurvey.Proofs.Resolution.Sibling

set_option autoImplicit false

namespace CodeSurvey.Resolution

open CodeSurvey.Path Text

/-- The specifier that climbs so many directories and goes down along some segments. -/
def climbing (up : Nat) (down : List (List Char)) : String :=
  "./" ++ (String.join (List.replicate up "../") ++ String.ofList (joinWith ['/'] down))

theorem splitAt_climb (up : Nat) (tail : List Char) :
    splitAt '/' ((String.join (List.replicate up "../")).toList ++ tail) =
      List.replicate up ['.', '.'] ++ splitAt '/' tail := by
  induction up with
  | zero => rfl
  | succ up ih =>
      have step := splitAt_append_mark '/' ['.', '.']
        ((String.join (List.replicate up "../")).toList ++ tail)
      rw [List.replicate_succ, String.join_cons, String.toList_append, List.append_assoc]
      rw [ih] at step
      exact step

theorem splitAt_climbing (up : Nat) {down : List (List Char)} (proper : down ≠ [])
    (flat : ∀ segment ∈ down, '/' ∉ segment) :
    splitAt '/' (climbing up down).toList = ['.'] :: (List.replicate up ['.', '.'] ++ down) := by
  have step := splitAt_append_mark '/' ['.']
    ((String.join (List.replicate up "../")).toList ++ joinWith ['/'] down)
  rw [splitAt_climb, splitAt_joinWith proper flat] at step
  rw [climbing, dot_slash_toList, String.toList_append, String.toList_ofList]
  exact step

/-- From a directory below a common one, climbing to the common one and going down gives the segments of
the two parts together. -/
theorem segments_climbing {directory : List Char} {common below down : List (List Char)}
    (here : settle (splitAt '/' directory) = common ++ below) (proper : down ≠ [])
    (flat : ∀ segment ∈ down, '/' ∉ segment) (named : ∀ segment ∈ common ++ down, IsName segment) :
    segments directory (climbing below.length down).toList = common ++ down := by
  have relative : (climbing below.length down).toList.head? ≠ some '/' := by
    simp [climbing]
  have above : (common ++ below).take ((common ++ below).length - below.length) = common := by
    apply List.take_left'
    rw [List.length_append]
    omega
  calc
    segments directory (climbing below.length down).toList
      = settle (splitAt '/' directory ++ ([['.']] ++ (List.replicate below.length ['.', '.'] ++ down))) := by
        rw [segments_of_not_rooted _ relative, splitAt_climbing _ proper flat]
        rfl
    _ = settle (settle (splitAt '/' directory ++ [['.']] ++ List.replicate below.length ['.', '.']) ++
          down) := by
        rw [settle_settle_append]
        simp only [List.append_assoc]
    _ = settle (common ++ down) := by
        rw [settle_append_up, settle_concat_dot, here, above]
    _ = common ++ down := settle_of_names named

theorem normalize_climbing {directory target : String} {common below down : List (List Char)}
    (normal : IsNormal target) (here : settle (splitAt '/' directory.toList) = common ++ below)
    (there : splitAt '/' target.toList = common ++ down) (proper : down ≠ []) :
    normalize directory (climbing below.length down) = target := by
  have flat : ∀ segment ∈ down, '/' ∉ segment := by
    intro segment member
    have inTarget : segment ∈ splitAt '/' target.toList := by
      rw [there]
      exact List.mem_append_right _ member
    exact not_mem_of_mem_splitAt inTarget
  have named : ∀ segment ∈ common ++ down, IsName segment := there ▸ normal
  rw [← String.toList_inj, normalize_toList, segments_climbing here proper flat named, ← there,
    joinWith_splitAt]

theorem slash_toList (path : String) : ("/" ++ path).toList = '/' :: path.toList := by
  rw [String.toList_append]
  rfl

theorem normalize_rooted {target : String} (directory : String) (normal : IsNormal target) :
    normalize directory ("/" ++ target) = target := by
  rw [← String.toList_inj, normalize_toList, slash_toList, segments_of_rooted _ rfl, splitAt_cons_mark,
    settle_empty_cons, settle_of_names normal, joinWith_splitAt]

/-- A specifier that begins with a slash is no relative module. -/
theorem asPath_rooted (family : Option Family) (path : String) :
    asPath family ("/" ++ path) = "/" ++ path := by
  unfold asPath
  split
  · rw [modulePath, slash_toList]
    rfl
  · rfl

/-- A specifier whose path is in normal form means the file at that path, just if there is one: the path
itself is the first one tried. -/
theorem resolve_eq_path_iff {family : Option Family} {specifier importer target : String}
    {files : List String} (inside : isExternal specifier = false) (filled : target ≠ "")
    (leads : normalize (importerDirectory importer) (asPath family specifier) = target) :
    resolve family specifier importer files = .resolved target ↔ target ∈ files := by
  constructor
  · exact resolve_mem
  · intro present
    rw [resolve_eq_resolved_iff, triedPaths, leads]
    exact ⟨inside, find?_candidates filled present⟩

/-- For a file whose path is in normal form, two specifiers mean it in every language and every file set
that has it, and never mean it in any other: climbing from the importer's directory to a directory above
both and going down from there, and the rooted path. -/
theorem climbing_and_rooted_resolved_iff (family : Option Family) {importer target : String}
    (files : List String) (normal : IsNormal target) {common below down : List (List Char)}
    (here : segments [] (importerDirectory importer).toList = common ++ below)
    (there : splitAt '/' target.toList = common ++ down) (proper : down ≠ []) :
    (resolve family (climbing below.length down) importer files = .resolved target ↔
        target ∈ files) ∧
      (resolve family ("/" ++ target) importer files = .resolved target ↔ target ∈ files) := by
  rw [segments_from_root] at here
  constructor
  · have inside : isExternal (climbing below.length down) = false :=
      not_isExternal_of_dot (dot_slash_toList _)
    have same : asPath family (climbing below.length down) = climbing below.length down :=
      asPath_dot_slash family _
    apply resolve_eq_path_iff inside normal.ne_empty
    rw [same]
    exact normalize_climbing normal here there proper
  · have inside : isExternal ("/" ++ target) = false := by
      rw [isExternal, slash_toList]
      rfl
    apply resolve_eq_path_iff inside normal.ne_empty
    rw [asPath_rooted]
    exact normalize_rooted _ normal

/-- A file in a nested directory that is spelled with a backslash and a dot reaches a file of another
directory, though a file with the same path and an extension is there, too. -/
theorem climbing_and_rooted_resolved_iff_of_neighbour :
    climbing 2 ["lib".toList, "util".toList] = "./../../lib/util" ∧
      resolve (some .python) "./../../lib/util" "src\\./app/page/a.py"
        ["src/lib/util.py", "src/lib/util"] = .resolved "src/lib/util" ∧
      resolve (some .python) "/src/lib/util" "src\\./app/page/a.py"
        ["src/lib/util.py", "src/lib/util"] = .resolved "src/lib/util" := by
  have both := @climbing_and_rooted_resolved_iff (some .python) "src\\./app/page/a.py" "src/lib/util"
    ["src/lib/util.py", "src/lib/util"] (by decide) ["src".toList] ["app".toList, "page".toList]
    ["lib".toList, "util".toList] (by decide) (by decide) (by decide)
  exact ⟨by decide, both.1.mpr (by decide), both.2.mpr (by decide)⟩

end CodeSurvey.Resolution
