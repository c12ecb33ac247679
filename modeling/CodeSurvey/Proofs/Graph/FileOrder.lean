import CodeSurvey.Proofs.Graph.CycleReport
import CodeSurvey.Proofs.Graph.Imports

/-!
The order in which files are given. A specifier means the same among the same files in any order, so a
node is the same but for the order of the files that depend on it, and the findings on the graph are
the same in another order. Which cycles are reported does depend on the order; whether there are any
does not.
-/

set_option autoImplicit false

namespace CodeSurvey

theorem Resolution.resolve_of_same_files (family : Option Family) (specifier importer : String)
    {files others : List String} (same : ∀ path, path ∈ files ↔ path ∈ others) :
    resolve family specifier importer files = resolve family specifier importer others := by
  have present : files.contains = others.contains := by
    funext path
    rw [Bool.eq_iff_iff, List.contains_iff_mem, List.contains_iff_mem]
    exact same path
  rw [resolve_eq, resolve_eq, firstPresent, firstPresent, present]

theorem FileNode.ofFile_of_same_files {paths others : List String}
    (same : ∀ path, path ∈ paths ↔ path ∈ others) : ofFile paths = ofFile others := by
  funext file
  unfold ofFile
  simp only [Resolution.resolve_of_same_files _ _ _ same]

namespace NodeMap

theorem insert_of_not_mem {nodes : NodeMap} {node : FileNode} (new : node.path ∉ nodes.paths) :
    nodes.insert node = nodes ++ [node] := by
  induction nodes with
  | nil => rfl
  | cons first rest ih =>
      rw [paths, List.map_cons, List.mem_cons, not_or] at new
      rw [insert, if_neg (Ne.symm new.1), ih new.2, List.cons_append]

theorem foldl_insert_of_nodup {list : List FileNode} {nodes : NodeMap}
    (distinct : (nodes.paths ++ list.map (·.path)).Nodup) : list.foldl insert nodes = nodes ++ list := by
  induction list generalizing nodes with
  | nil => rw [List.foldl_nil, List.append_nil]
  | cons node rest ih =>
      rw [List.map_cons, List.append_cons] at distinct
      have new : node.path ∉ nodes.paths := by
        intro old
        have first := (List.nodup_append.mp distinct).1
        exact (List.nodup_append.mp first).2.2 _ old _ List.mem_cons_self rfl
      rw [List.foldl_cons, insert_of_not_mem new, ih, List.append_assoc, List.singleton_append]
      simpa only [paths, List.map_append, List.map_cons, List.map_nil] using distinct

/-- Files with distinct paths give one node each. -/
theorem bare_of_nodup {files : List SourceFile} (distinct : (files.map (·.path)).Nodup) :
    bare files = files.map (FileNode.ofFile (files.map (·.path))) := by
  rw [bare, ofList, foldl_insert_of_nodup, List.nil_append]
  simpa only [paths, List.map_nil, List.nil_append, List.map_map, Function.comp_def,
    FileNode.ofFile_path] using distinct

theorem bare_perm {files others : List SourceFile} (distinct : (files.map (·.path)).Nodup)
    (permuted : files.Perm others) : (bare files).Perm (bare others) := by
  have paths := permuted.map (·.path)
  rw [bare_of_nodup distinct, bare_of_nodup (paths.nodup_iff.mp distinct),
    FileNode.ofFile_of_same_files fun path => paths.mem_iff]
  exact permuted.map _

theorem get?_eq_some_iff {nodes : NodeMap} (distinct : nodes.paths.Nodup) {path : String}
    {node : FileNode} : nodes.get? path = some node ↔ node ∈ nodes ∧ node.path = path := by
  constructor
  · intro found
    exact ⟨mem_of_get? found, path_of_get? found⟩
  · rintro ⟨member, rfl⟩
    exact get?_of_mem distinct member

theorem get?_perm {nodes others : NodeMap} (distinct : nodes.paths.Nodup)
    (permuted : nodes.Perm others) (path : String) : nodes.get? path = others.get? path := by
  have paths : others.paths.Nodup := (permuted.map FileNode.path).nodup_iff.mp distinct
  apply Option.ext
  intro node
  rw [get?_eq_some_iff distinct, get?_eq_some_iff paths, permuted.mem_iff]

theorem importers_perm {nodes others : NodeMap} (permuted : nodes.Perm others) (target : String) :
    (nodes.importers target).Perm (others.importers target) :=
  (permuted.filter _).map _

/-- A node with the files that depend on it. -/
theorem build_get? (files : List SourceFile) (path : String) :
    (build files).get? path = ((bare files).get? path).map fun node =>
      { node with dependents := (bare files).importers node.path } := by
  rw [build_eq, get?, List.find?_map]
  rfl

theorem build_dependsOn (files : List SourceFile) (path target : String) :
    (build files).DependsOn path target ↔ (bare files).DependsOn path target := by
  unfold DependsOn
  rw [build_get?]
  cases (bare files).get? path <;> simp

theorem build_unused (files : List SourceFile) :
    (build files).unused = ((bare files).filter fun node =>
      ((bare files).importers node.path).isEmpty && !Entry.isEntryPoint node.path).map (·.path) := by
  rw [unused, build_eq, List.filter_map, List.map_map]
  rfl

/-- Nothing is reported just if there is no cycle. -/
theorem cycles_eq_nil_iff (nodes : NodeMap) :
    nodes.cycles = [] ↔ ∀ way, ¬ Way.IsCycle nodes.DependsOn way := by
  constructor
  · intro none way cycle
    obtain ⟨_, _, loop, _, _, known⟩ := CycleSearch.closes_of_isCycle cycle
    obtain ⟨found, member, _⟩ := (CycleSearch.mem_complete_reported nodes _).mp known
    rw [none] at member
    cases member
  · intro free
    apply List.eq_nil_iff_forall_not_mem.mpr
    intro way member
    exact free way ((CycleSearch.complete_spec nodes).2.2 way member).toIsCycle

theorem cycles_eq_nil_of_same_edges {nodes others : NodeMap}
    (same : ∀ path target, nodes.DependsOn path target ↔ others.DependsOn path target) :
    nodes.cycles = [] ↔ others.cycles = [] := by
  have edges : nodes.DependsOn = others.DependsOn := by
    funext path target
    exact propext (same path target)
  rw [cycles_eq_nil_iff, cycles_eq_nil_iff, edges]

end NodeMap

/-- Two nodes that differ at most in the order of the files that depend on them. -/
structure FileNode.SameUpToOrder (node other : FileNode) : Prop where
  path : node.path = other.path
  imports : node.imports = other.imports
  exports : node.exports = other.exports
  dependencies : node.dependencies = other.dependencies
  missing : node.missing = other.missing
  dependents : node.dependents.Perm other.dependents

namespace DependencyGraph

/-- Two graphs with the same nodes by path and the same findings, but for the order and for which
cycles stand for the loops that there are. -/
structure SameUpToOrder (graph other : DependencyGraph) : Prop where
  nodes : ∀ path,
    Option.Rel FileNode.SameUpToOrder (graph.nodes.get? path) (other.nodes.get? path)
  unused : graph.unused.Perm other.unused
  missing : graph.missing.Perm other.missing
  cycles : graph.cycles = [] ↔ other.cycles = []

/-- Files with distinct paths, given in another order, have the same graph up to order. -/
theorem ofFiles_same_up_to_order {files others : List SourceFile}
    (distinct : (files.map (·.path)).Nodup) (permuted : files.Perm others) :
    (ofFiles files).SameUpToOrder (ofFiles others) := by
  have bare := NodeMap.bare_perm distinct permuted
  have importers := NodeMap.importers_perm bare
  have found := NodeMap.get?_perm (NodeMap.bare_paths_nodup files) bare
  refine ⟨?_, ?_, ?_, ?_⟩
  · intro path
    change Option.Rel _ ((NodeMap.build files).get? path) ((NodeMap.build others).get? path)
    rw [NodeMap.build_get?, NodeMap.build_get?, found]
    cases (NodeMap.bare others).get? path with
    | none => exact .none
    | some node => exact .some ⟨rfl, rfl, rfl, rfl, rfl, importers node.path⟩
  · change (NodeMap.build files).unused.Perm (NodeMap.build others).unused
    rw [NodeMap.build_unused, NodeMap.build_unused]
    simp only [(importers _).isEmpty_eq]
    exact (bare.filter _).map _
  · change (NodeMap.build files).missing.Perm (NodeMap.build others).missing
    rw [NodeMap.missing, NodeMap.missing, NodeMap.build_eq, NodeMap.build_eq, List.flatMap_map,
      List.flatMap_map]
    exact bare.flatMap_right _
  · apply NodeMap.cycles_eq_nil_of_same_edges
    intro path target
    rw [NodeMap.build_dependsOn, NodeMap.build_dependsOn, NodeMap.DependsOn, NodeMap.DependsOn, found]

/-- Two files that import each other and a third that imports one of them and a file that is not
there. -/
def mutualImports : List SourceFile :=
  [⟨"a.js", "import './b'", "js"⟩, ⟨"b.js", "import './a'", "js"⟩,
    ⟨"c.js", "import './b'; import './d'", "js"⟩]

theorem ofFiles_same_up_to_order_of_mutual_imports :
    (ofFiles mutualImports).SameUpToOrder (ofFiles mutualImports.reverse) ∧
      (ofFiles mutualImports).cycles = [["a.js", "b.js", "a.js"]] ∧
      (ofFiles mutualImports.reverse).cycles = [["b.js", "a.js", "b.js"]] :=
  ⟨ofFiles_same_up_to_order (by decide) (List.reverse_perm _).symm, by decide +kernel,
    by decide +kernel⟩

end DependencyGraph

end CodeSurvey
