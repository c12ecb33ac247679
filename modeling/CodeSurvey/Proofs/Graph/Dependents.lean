import CodeSurvey.Proofs.Graph.NodeTable

set_option autoImplicit false

namespace CodeSurvey

namespace FileNode

theorem addDependent_path (node : FileNode) (path : String) :
    (node.addDependent path).path = node.path := by
  unfold addDependent
  split <;> rfl

theorem addDependent_of_not_mem (node : FileNode) (path : String)
    (new : path ∉ node.dependents) :
    node.addDependent path = { node with dependents := node.dependents ++ [path] } := by
  simp [addDependent, new]

theorem foldl_addDependent (paths : List String) (node : FileNode)
    (distinct : (node.dependents ++ paths).Nodup) :
    paths.foldl addDependent node = { node with dependents := node.dependents ++ paths } := by
  induction paths generalizing node with
  | nil => simp
  | cons path rest ih =>
      have new : path ∉ node.dependents := by
        intro member
        exact (List.nodup_append.mp distinct).2.2 path member path List.mem_cons_self rfl
      rw [List.foldl_cons, addDependent_of_not_mem node path new, ih]
      · rw [List.append_assoc, List.singleton_append]
      · rwa [List.append_assoc, List.singleton_append]

end FileNode

namespace NodeMap

/-- The files that depend on a file, in the order of the nodes. -/
def importers (nodes : NodeMap) (target : String) : List String :=
  (nodes.filter fun node => target ∈ node.dependencies).map (·.path)

/-- Each node takes the links that lead to it, so links to different nodes do not meet. -/
theorem foldl_noteDependent (links : List (String × String)) (nodes : NodeMap) :
    links.foldl (fun found (path, target) => found.noteDependent path target) nodes =
      nodes.map fun node =>
        ((links.filter (·.2 == node.path)).map (·.1)).foldl FileNode.addDependent node := by
  induction links generalizing nodes with
  | nil => simp
  | cons link rest ih =>
      obtain ⟨path, target⟩ := link
      rw [List.foldl_cons, ih]
      change List.map _ (List.map _ nodes) = _
      rw [List.map_map]
      apply List.map_congr_left
      intro node _
      by_cases here : node.path = target
      · simp [here, FileNode.addDependent_path]
      · have elsewhere : target ≠ node.path := fun same => here same.symm
        simp [here, elsewhere]

private theorem filter_eq_of_nodup (targets : List String) (target : String)
    (distinct : targets.Nodup) :
    targets.filter (· == target) = if target ∈ targets then [target] else [] := by
  induction targets with
  | nil => rfl
  | cons first rest ih =>
      rw [List.nodup_cons] at distinct
      by_cases same : first = target
      · rw [same] at distinct ⊢
        simp [ih distinct.2, distinct.1]
      · have other : target ≠ first := fun equal => same equal.symm
        simp [ih distinct.2, same, other]

theorem edges_into (nodes : NodeMap) (target : String)
    (distinct : ∀ node ∈ nodes, node.dependencies.Nodup) :
    (nodes.edges.filter (·.2 == target)).map (·.1) = nodes.importers target := by
  induction nodes with
  | nil => rfl
  | cons node rest ih =>
      have mine := filter_eq_of_nodup node.dependencies target (distinct node List.mem_cons_self)
      have others := ih fun other member => distinct other (List.mem_cons_of_mem _ member)
      have first : (((node.dependencies.map fun target => (node.path, target)).filter
          (·.2 == target)).map (·.1)) =
            if target ∈ node.dependencies then [node.path] else [] := by
        rw [List.filter_map, List.map_map]
        change (node.dependencies.filter (· == target)).map (fun _ => node.path) = _
        rw [mine]
        split <;> rfl
      unfold edges importers at *
      rw [List.flatMap_cons, List.filter_append, List.map_append, first, others]
      by_cases used : target ∈ node.dependencies <;> simp [used]

theorem importers_nodup (nodes : NodeMap) (target : String) (distinct : nodes.paths.Nodup) :
    (nodes.importers target).Nodup :=
  distinct.sublist (List.filter_sublist.map _)

theorem withDependents_eq (nodes : NodeMap) (distinct : nodes.paths.Nodup)
    (once : ∀ node ∈ nodes, node.dependencies.Nodup)
    (none : ∀ node ∈ nodes, node.dependents = []) :
    nodes.withDependents =
      nodes.map fun node => { node with dependents := nodes.importers node.path } := by
  rw [withDependents, foldl_noteDependent]
  apply List.map_congr_left
  intro node member
  rw [edges_into nodes node.path once, FileNode.foldl_addDependent]
  · rw [none node member, List.nil_append]
  · rw [none node member, List.nil_append]
    exact importers_nodup nodes node.path distinct

/-- The nodes of files before the second pass. -/
def bare (files : List SourceFile) : NodeMap :=
  ofList (files.map (FileNode.ofFile (files.map (·.path))))

theorem bare_paths (files : List SourceFile) :
    (bare files).paths = (files.map (·.path)).eraseDups := by
  have same : (files.map (FileNode.ofFile (files.map (·.path)))).map (·.path) =
      files.map (·.path) := by
    rw [List.map_map]
    apply List.map_congr_left
    intro file _
    exact FileNode.ofFile_path _ file
  rw [bare, ofList_paths, same]

theorem bare_paths_nodup (files : List SourceFile) : (bare files).paths.Nodup :=
  ofList_paths_nodup _

theorem bare_get? (files : List SourceFile) (path : String) :
    (bare files).get? path = (files.reverse.find? (·.path == path)).map
      (FileNode.ofFile (files.map (·.path))) := by
  rw [bare, get?_ofList, ← List.map_reverse, List.find?_map]
  simp only [Function.comp_def, FileNode.ofFile_path]

/-- A node comes from the last file with its path. -/
theorem bare_ofFile (files : List SourceFile) (node : FileNode) (member : node ∈ bare files) :
    ∃ file, files.reverse.find? (·.path == node.path) = some file ∧
      node = FileNode.ofFile (files.map (·.path)) file := by
  have found := get?_of_mem (bare_paths_nodup files) member
  rw [bare_get?, Option.map_eq_some_iff] at found
  obtain ⟨file, last, same⟩ := found
  exact ⟨file, last, same.symm⟩

theorem build_eq (files : List SourceFile) :
    build files =
      (bare files).map fun node => { node with dependents := (bare files).importers node.path } := by
  apply withDependents_eq
  · exact bare_paths_nodup files
  · intro node member
    obtain ⟨file, -, same⟩ := bare_ofFile files node member
    rw [same]
    exact (FileNode.ofFile_dependsWithin _ file).distinct
  · intro node member
    obtain ⟨file, -, same⟩ := bare_ofFile files node member
    rw [same, FileNode.ofFile_dependents]

theorem build_paths (files : List SourceFile) : (build files).paths = (bare files).paths := by
  rw [build_eq, paths, List.map_map]
  rfl

theorem build_importers (files : List SourceFile) (target : String) :
    (build files).importers target = (bare files).importers target := by
  rw [build_eq, importers, List.filter_map, List.map_map]
  rfl

/-- The nodes of files have the paths of the files, each once, in the order of first occurrence. A node
is that of the last file with its path, but for the files that depend on it: these are, in the order of
the nodes, the files whose dependencies it is among. Every dependency is itself a node. -/
theorem build_dependents_inverse (files : List SourceFile) :
    (build files).map (·.path) = (files.map (·.path)).eraseDups ∧
      ((build files).map (·.path)).Nodup ∧
      ∀ node ∈ build files,
        (∃ file, files.reverse.find? (·.path == node.path) = some file ∧
          { node with dependents := [] } = FileNode.ofFile (files.map (·.path)) file) ∧
        node.dependents =
          ((build files).filter fun other => node.path ∈ other.dependencies).map (·.path) ∧
        ∀ target ∈ node.dependencies, target ∈ (build files).map (·.path) := by
  have distinct : (build files).paths.Nodup := by
    rw [build_paths]
    exact bare_paths_nodup files
  refine ⟨(build_paths files).trans (bare_paths files), distinct, ?_⟩
  intro node member
  have plain := member
  rw [build_eq, List.mem_map] at plain
  obtain ⟨source, present, rfl⟩ := plain
  obtain ⟨file, last, same⟩ := bare_ofFile files source present
  refine ⟨⟨file, last, ?_⟩, (build_importers files source.path).symm, ?_⟩
  · rw [← same, ← FileNode.ofFile_dependents (files.map (·.path)) file, ← same]
  · intro target used
    change target ∈ (build files).paths
    rw [build_paths, bare_paths, List.mem_eraseDups]
    change target ∈ source.dependencies at used
    rw [same] at used
    exact (FileNode.ofFile_dependsWithin _ file).inside used

end NodeMap

end CodeSurvey
