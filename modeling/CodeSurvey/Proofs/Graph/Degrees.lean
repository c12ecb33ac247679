import CodeSurvey.Command.Run
import CodeSurvey.Proofs.Graph.Dependents
import CodeSurvey.Proofs.Report.Assembly
import Mathlib.Algebra.GroupWithZero.Nat
import Mathlib.Data.List.Induction

set_option autoImplicit false

namespace CodeSurvey

section Lists

variable {α β : Type} [BEq α] [LawfulBEq α]

theorem eraseDups_of_nodup {items : List α} (distinct : items.Nodup) : items.eraseDups = items := by
  induction items with
  | nil => rfl
  | cons item rest ih =>
      rw [List.nodup_cons] at distinct
      have others : rest.filter (fun other => !other == item) = rest := by
        rw [List.filter_eq_self]
        intro other member
        have apart : other ≠ item := by
          intro same
          exact distinct.1 (same ▸ member)
        simpa using apart
      rw [List.eraseDups_cons, others, ih distinct.2]

theorem eraseDups_map [BEq β] [LawfulBEq β] {f : α → β} (injective : ∀ a b, f a = f b → a = b)
    (items : List α) : (items.map f).eraseDups = items.eraseDups.map f := by
  induction items using List.reverseRecOn with
  | nil => rfl
  | append_singleton front item ih =>
      have known : f item ∈ front.eraseDups.map f ↔ item ∈ front.eraseDups := by
        constructor
        · intro member
          obtain ⟨other, listed, same⟩ := List.mem_map.mp member
          exact injective other item same ▸ listed
        · intro member
          exact List.mem_map_of_mem member
      rw [List.map_append, List.map_singleton, eraseDups_concat, eraseDups_concat, ih]
      by_cases old : item ∈ front.eraseDups
      · rw [if_pos (known.mpr old), if_pos old]
      · rw [if_neg (mt known.mp old), if_neg old, List.map_append, List.map_singleton]

/-- Where each item belongs to one of several places, the numbers of items at the places add up to the
number of items. -/
theorem sum_countP_places {places : List α} (distinct : places.Nodup) (place : β → α)
    {items : List β} (inside : ∀ item ∈ items, place item ∈ places) :
    (places.map fun p => items.countP fun item => place item == p).sum = items.length := by
  induction items with
  | nil => simp
  | cons item rest ih =>
      have once : (places.map fun p => if place item == p then 1 else 0).sum = 1 := by
        have counted := List.count_eq_one_of_mem distinct (inside item List.mem_cons_self)
        rw [List.count_eq_length_filter] at counted
        simp [List.sum_map_ite, counted, Bool.beq_comm]
      have others := ih fun other member => inside other (List.mem_cons_of_mem _ member)
      simp only [List.countP_cons, List.sum_map_add, others, once, List.length_cons]

end Lists

namespace NodeMap

variable {nodes : NodeMap}

/-- The targets of dependencies that are no nodes, in the order in which they first come. -/
def unknownTargets (nodes : NodeMap) : List String :=
  ((nodes.edges.map (·.2)).filter fun target => !nodes.paths.contains target).eraseDups

/-- The nodes with each dependency listed once. -/
def simplified (nodes : NodeMap) : NodeMap :=
  nodes.map fun node => { node with dependencies := node.dependencies.eraseDups }

theorem edges_cons (node : FileNode) (rest : NodeMap) :
    edges (node :: rest) = node.dependencies.map (node.path, ·) ++ edges rest :=
  List.flatMap_cons

theorem mem_edges {edge : String × String} :
    edge ∈ nodes.edges ↔ ∃ node ∈ nodes, node.path = edge.1 ∧ edge.2 ∈ node.dependencies := by
  simp only [edges, List.mem_flatMap, List.mem_map]
  constructor
  · intro listed
    obtain ⟨node, member, target, used, same⟩ := listed
    exact ⟨node, member, congrArg (·.1) same, (congrArg (·.2) same) ▸ used⟩
  · intro listed
    obtain ⟨node, member, source, used⟩ := listed
    exact ⟨node, member, edge.2, used, by rw [source]⟩

theorem source_mem_paths {edge : String × String} (member : edge ∈ nodes.edges) :
    edge.1 ∈ nodes.paths := by
  obtain ⟨node, listed, same, -⟩ := mem_edges.mp member
  rw [← same]
  exact List.mem_map_of_mem listed

theorem simplified_paths (nodes : NodeMap) : nodes.simplified.paths = nodes.paths := by
  rw [simplified, paths, List.map_map]
  rfl

theorem simplified_importers (nodes : NodeMap) (target : String) :
    nodes.simplified.importers target = nodes.importers target := by
  rw [simplified, importers, List.filter_map, List.map_map]
  simp only [Function.comp_def, List.mem_eraseDups]
  rfl

theorem simplified_dependencies_nodup :
    ∀ node ∈ nodes.simplified, node.dependencies.Nodup := by
  intro node member
  obtain ⟨plain, -, rfl⟩ := List.mem_map.mp member
  exact eraseDups_nodup _

/-- The edges out of a node. -/
theorem edges_from (distinct : nodes.paths.Nodup) {node : FileNode} (member : node ∈ nodes) :
    nodes.edges.filter (·.1 == node.path) = node.dependencies.map (node.path, ·) := by
  induction nodes with
  | nil => cases member
  | cons first rest ih =>
      obtain ⟨new, others⟩ : first.path ∉ paths rest ∧ (paths rest).Nodup :=
        List.nodup_cons.mp distinct
      rw [edges_cons, List.filter_append]
      rcases List.mem_cons.mp member with rfl | later
      · have own : (node.dependencies.map (node.path, ·)).filter (·.1 == node.path) =
            node.dependencies.map (node.path, ·) := by
          rw [List.filter_eq_self]
          intro edge listed
          obtain ⟨target, -, rfl⟩ := List.mem_map.mp listed
          exact beq_self_eq_true node.path
        have none : (edges rest).filter (·.1 == node.path) = [] := by
          rw [List.filter_eq_nil_iff]
          intro edge listed same
          exact new (beq_iff_eq.mp same ▸ source_mem_paths listed)
        rw [own, none, List.append_nil]
      · have apart : first.path ≠ node.path := by
          intro same
          exact new (same ▸ List.mem_map_of_mem later)
        have none : (first.dependencies.map (first.path, ·)).filter (·.1 == node.path) = [] := by
          rw [List.filter_eq_nil_iff]
          intro edge listed same
          obtain ⟨target, -, rfl⟩ := List.mem_map.mp listed
          exact apart (beq_iff_eq.mp same)
        rw [none, List.nil_append, ih others later]

/-- Leaving out repeats among the edges is leaving them out in each node. -/
theorem simplified_edges (distinct : nodes.paths.Nodup) :
    nodes.simplified.edges = nodes.edges.eraseDups := by
  induction nodes with
  | nil => rfl
  | cons node rest ih =>
      obtain ⟨new, others⟩ : node.path ∉ paths rest ∧ (paths rest).Nodup :=
        List.nodup_cons.mp distinct
      have apart : (edges rest).removeAll (node.dependencies.map (node.path, ·)) = edges rest := by
        rw [List.removeAll, List.filter_eq_self]
        intro edge listed
        have elsewhere : edge ∉ node.dependencies.map (node.path, ·) := by
          intro here
          obtain ⟨target, -, rfl⟩ := List.mem_map.mp here
          exact new (source_mem_paths listed)
        simpa using elsewhere
      rw [edges_cons, List.eraseDups_append, apart, ← ih others,
        eraseDups_map fun a b same => (Prod.mk.inj same).2]
      exact edges_cons _ _

theorem toDigraph_vertices (distinct : nodes.paths.Nodup) :
    nodes.toDigraph.vertices = nodes.paths ++ nodes.unknownTargets := by
  show (nodes.paths ++ nodes.edges.map (·.2)).eraseDups = _
  rw [List.eraseDups_append, eraseDups_of_nodup distinct]
  rfl

theorem toDigraph_vertices_nodup (nodes : NodeMap) : nodes.toDigraph.vertices.Nodup :=
  eraseDups_nodup _

/-- Edges out of targets that are no nodes there are none, and the others come in the order of the
nodes. -/
theorem toDigraph_edges (distinct : nodes.paths.Nodup) :
    nodes.toDigraph.edges = nodes.edges.eraseDups := by
  have unknown : (nodes.unknownTargets.flatMap fun source =>
      (nodes.edges.filter fun edge => edge.1 == source).eraseDups) = [] := by
    rw [List.flatMap_eq_nil_iff]
    intro source member
    have stranger : source ∉ nodes.paths := by
      have kept := (List.mem_filter.mp (List.mem_eraseDups.mp member)).2
      simpa using kept
    have none : (nodes.edges.filter fun edge => edge.1 == source) = [] := by
      rw [List.filter_eq_nil_iff]
      intro edge listed same
      exact stranger (beq_iff_eq.mp same ▸ source_mem_paths listed)
    rw [none]
    rfl
  have known : (nodes.paths.flatMap fun source =>
      (nodes.edges.filter fun edge => edge.1 == source).eraseDups) = nodes.simplified.edges := by
    have each : nodes.simplified.edges =
        nodes.flatMap fun node => node.dependencies.eraseDups.map (node.path, ·) :=
      List.flatMap_map _ _ _
    rw [each, paths, List.flatMap_map, List.flatMap_def, List.flatMap_def]
    congr 1
    apply List.map_congr_left
    intro node member
    rw [edges_from distinct member, eraseDups_map fun a b same => (Prod.mk.inj same).2]
  calc nodes.toDigraph.edges
      = nodes.toDigraph.vertices.flatMap fun source =>
          (nodes.edges.filter fun edge => edge.1 == source).eraseDups := rfl
    _ = nodes.simplified.edges := by
        rw [toDigraph_vertices distinct, List.flatMap_append, known, unknown, List.append_nil]
    _ = nodes.edges.eraseDups := simplified_edges distinct

theorem endpoints_mem_vertices (distinct : nodes.paths.Nodup) :
    ∀ edge ∈ nodes.toDigraph.edges,
      edge.1 ∈ nodes.toDigraph.vertices ∧ edge.2 ∈ nodes.toDigraph.vertices := by
  intro edge member
  rw [toDigraph_edges distinct, List.mem_eraseDups] at member
  have source := source_mem_paths member
  have target : edge.2 ∈ nodes.edges.map (·.2) := List.mem_map_of_mem member
  constructor
  · exact List.mem_eraseDups.mpr (List.mem_append_left _ source)
  · exact List.mem_eraseDups.mpr (List.mem_append_right _ target)

/-- As many edges end at a vertex as files depend on it. -/
theorem countP_into (distinct : nodes.paths.Nodup) (target : String) :
    (nodes.toDigraph.edges.countP fun edge => edge.2 == target) =
      (nodes.importers target).length := by
  rw [toDigraph_edges distinct, ← simplified_edges distinct, List.countP_eq_length_filter,
    ← simplified_importers, ← edges_into _ _ simplified_dependencies_nodup, List.length_map]

/-- As many edges begin at a node as it has different dependencies. -/
theorem countP_from (distinct : nodes.paths.Nodup) {node : FileNode} (member : node ∈ nodes) :
    (nodes.toDigraph.edges.countP fun edge => edge.1 == node.path) =
      node.dependencies.eraseDups.length := by
  have once : { node with dependencies := node.dependencies.eraseDups } ∈ nodes.simplified :=
    List.mem_map_of_mem member
  have distinctToo : nodes.simplified.paths.Nodup := by
    rw [simplified_paths]
    exact distinct
  have out := edges_from distinctToo once
  rw [toDigraph_edges distinct, ← simplified_edges distinct, List.countP_eq_length_filter]
  rw [out, List.length_map]

/-- As many edges begin at a vertex as it has different dependencies; one that is no node has none. -/
theorem countP_from_vertex (distinct : nodes.paths.Nodup) (source : String) :
    (nodes.toDigraph.edges.countP fun edge => edge.1 == source) =
      (nodes.dependenciesOf source).eraseDups.length := by
  cases found : nodes.get? source with
  | some node =>
      rw [dependenciesOf, found, ← path_of_get? found, countP_from distinct (mem_of_get? found)]
      rfl
  | none =>
      have none : (nodes.toDigraph.edges.countP fun edge => edge.1 == source) = 0 := by
        rw [List.countP_eq_zero]
        intro edge member same
        rw [toDigraph_edges distinct, List.mem_eraseDups] at member
        obtain ⟨node, listed, path, -⟩ := mem_edges.mp member
        have known := get?_of_mem distinct listed
        rw [path, beq_iff_eq.mp same, found] at known
        cases known
      rw [none, dependenciesOf, found]
      rfl

end NodeMap

namespace Digraph

/-- Counts put in order: the largest first, and equal ones as they came. -/
structure Ranked (counts ranked : List (String × Nat)) : Prop where
  perm : ranked.Perm counts
  falling : ranked.Pairwise fun a b => b.2 ≤ a.2
  ties : ∀ n, (ranked.filter fun count => count.2 == n) = counts.filter fun count => count.2 == n

theorem exists_ranked_top (limit : Int) (counts : List (String × Nat)) :
    ∃ ranked, Ranked counts ranked ∧ top limit counts = capped limit ranked := by
  have trans : ∀ a b c : String × Nat, decide (b.2 ≤ a.2) = true → decide (c.2 ≤ b.2) = true →
      decide (c.2 ≤ a.2) = true := by
    intro a b c first second
    simp only [decide_eq_true_eq] at first second ⊢
    omega
  have total : ∀ a b : String × Nat, (decide (b.2 ≤ a.2) || decide (a.2 ≤ b.2)) = true := by
    intro a b
    simp only [Bool.or_eq_true, decide_eq_true_eq]
    omega
  refine ⟨_, ⟨List.mergeSort_perm _ _, ?_, ?_⟩, rfl⟩
  · have sorted := List.pairwise_mergeSort trans total counts
    simpa only [decide_eq_true_eq] using sorted
  · intro n
    apply filter_mergeSort trans total
    intro a b first second
    simp only [beq_iff_eq] at first second
    simp only [first, second, Nat.le_refl, decide_true]

end Digraph

/-- The name by which a document calls a vertex. -/
def Value.id? : Value → Option Value
  | .object fields => Fields.get? fields "id"
  | _ => none

/-- An edge in a document. -/
def Value.ofEdge (edge : String × String) : Value :=
  .object [("source", .text edge.1), ("target", .text edge.2)]

theorem Digraph.toValue_eq (g : Digraph) (nodes : NodeMap) :
    ∃ vertices, g.toValue nodes =
        .object [("nodes", .list vertices), ("edges", .list (g.edges.map Value.ofEdge))] ∧
      vertices.map Value.id? = g.vertices.map fun v => some (.text v) := by
  refine ⟨_, rfl, ?_⟩
  rw [List.map_map]
  rfl

namespace NodeMap

/-! Built nodes. -/

theorem build_dependsWithin (files : List SourceFile) :
    ∀ node ∈ build files, node.DependsWithin (build files).paths := by
  intro node member
  rw [build_paths, bare_paths]
  rw [build_eq, List.mem_map] at member
  obtain ⟨source, present, rfl⟩ := member
  obtain ⟨file, -, same⟩ := bare_ofFile files source present
  have within := FileNode.ofFile_dependsWithin (files.map (·.path)) file
  rw [← same] at within
  refine ⟨within.distinct, ?_⟩
  intro target used
  exact List.mem_eraseDups.mpr (within.inside used)

theorem build_dependents (files : List SourceFile) :
    ∀ node ∈ build files, node.dependents = (build files).importers node.path := by
  intro node member
  rw [build_importers]
  rw [build_eq, List.mem_map] at member
  obtain ⟨source, -, rfl⟩ := member
  rfl

theorem build_paths_nodup (files : List SourceFile) : (build files).paths.Nodup := by
  rw [build_paths]
  exact bare_paths_nodup files

theorem build_unknownTargets (files : List SourceFile) : (build files).unknownTargets = [] := by
  have none : (((build files).edges.map (·.2)).filter
      fun target => !(build files).paths.contains target) = [] := by
    rw [List.filter_eq_nil_iff]
    intro target member stranger
    obtain ⟨edge, listed, rfl⟩ := List.mem_map.mp member
    obtain ⟨node, present, -, used⟩ := mem_edges.mp listed
    have known := (build_dependsWithin files node present).inside used
    simp [known] at stranger
  rw [unknownTargets, none]
  rfl

theorem build_edges_eraseDups (files : List SourceFile) :
    (build files).edges.eraseDups = (build files).edges := by
  have same : (build files).simplified = build files := by
    rw [simplified, List.map_congr_left (g := id), List.map_id]
    intro node member
    rw [eraseDups_of_nodup (build_dependsWithin files node member).distinct]
    rfl
  rw [← simplified_edges (build_paths_nodup files), same]

theorem build_fanOut (files : List SourceFile) :
    (build files).toDigraph.fanOut =
      (build files).map fun node => (node.path, node.dependencies.length) := by
  have distinct := build_paths_nodup files
  rw [Digraph.fanOut, toDigraph_vertices distinct, build_unknownTargets, List.append_nil, paths,
    List.map_map]
  apply List.map_congr_left
  intro node member
  have once := eraseDups_of_nodup (build_dependsWithin files node member).distinct
  rw [Function.comp_apply, countP_from distinct member, once]

theorem build_fanIn (files : List SourceFile) :
    (build files).toDigraph.fanIn =
      (build files).map fun node => (node.path, node.dependents.length) := by
  have distinct := build_paths_nodup files
  rw [Digraph.fanIn, toDigraph_vertices distinct, build_unknownTargets, List.append_nil, paths,
    List.map_map]
  apply List.map_congr_left
  intro node member
  rw [Function.comp_apply, countP_into distinct, build_dependents files node member]

end NodeMap

/-! What the reports tell. -/

/-- The numbers and the document of nodes are those of one simple graph: its vertices are the nodes and
behind them the targets that are no nodes, its edges are the different dependencies. -/
structure Digraph.Describes (g : Digraph) (nodes : NodeMap) (numbers : Metrics) (limit : Int) :
    Prop where
  vertices : g.vertices = nodes.map (·.path) ++ nodes.unknownTargets
  edges : g.edges = nodes.edges.eraseDups
  document : ∃ vertices, nodes.graphDocument = (Value.object
      [("nodes", .list vertices), ("edges", .list (g.edges.map Value.ofEdge))]).toJsonDocument ∧
    vertices.map Value.id? = g.vertices.map fun v => some (.text v)
  fanIn : numbers.fanIn = g.vertices.map fun v => (v, (g.edges.filter (·.2 == v)).length)
  fanOut : numbers.fanOut = g.vertices.map fun v => (v, (g.edges.filter (·.1 == v)).length)
  into : ∀ v, (g.edges.filter (·.2 == v)).length = (nodes.importers v).length
  out : ∀ v, (g.edges.filter (·.1 == v)).length = (nodes.dependenciesOf v).eraseDups.length
  sumIn : (numbers.fanIn.map (·.2)).sum = g.edges.length
  sumOut : (numbers.fanOut.map (·.2)).sum = g.edges.length
  topIn : ∃ ranked, Ranked numbers.fanIn ranked ∧ numbers.topFanIn = capped limit ranked
  topOut : ∃ ranked, Ranked numbers.fanOut ranked ∧ numbers.topFanOut = capped limit ranked

theorem NodeMap.toDigraph_describes {nodes : NodeMap} (distinct : nodes.paths.Nodup) (limit : Int) :
    nodes.toDigraph.Describes nodes (nodes.toDigraph.metrics limit) limit := by
  have inside := endpoints_mem_vertices distinct
  have vertices := toDigraph_vertices_nodup nodes
  refine ⟨toDigraph_vertices distinct, toDigraph_edges distinct, ?_, ?_, ?_, ?_, ?_, ?_, ?_, ?_, ?_⟩
  · obtain ⟨ids, whole, named⟩ := nodes.toDigraph.toValue_eq nodes
    exact ⟨ids, by rw [graphDocument, whole], named⟩
  · simp only [← List.countP_eq_length_filter]
    rfl
  · simp only [← List.countP_eq_length_filter]
    rfl
  · intro v
    rw [← List.countP_eq_length_filter, countP_into distinct]
  · intro v
    rw [← List.countP_eq_length_filter, countP_from_vertex distinct]
  · have added := sum_countP_places vertices (·.2) fun edge member => (inside edge member).2
    rw [← added, Digraph.metrics, Digraph.fanIn, List.map_map]
    rfl
  · have added := sum_countP_places vertices (·.1) fun edge member => (inside edge member).1
    rw [← added, Digraph.metrics, Digraph.fanOut, List.map_map]
    rfl
  · exact Digraph.exists_ranked_top limit _
  · exact Digraph.exists_ranked_top limit _

/-- What the table of the graph, the digest and the document of a report tell of a node: how many files
it uses and how many use it. -/
structure FileNode.IsToldAs (graph : DependencyGraph) (node : FileNode) (uses used : Nat) : Prop where
  row : (Command.graphRow node).take 3 = [node.path, toString uses, toString used]
  line : ∀ file : SourceFile, file.path = node.path → Digest.fileLine graph file =
    s!"  - {node.path}" ++ (if uses = 0 then "" else s!" (imports: {uses})") ++
      (if used = 0 then "" else s!" (used by: {used})")
  document : ∃ fields, Document.node node = .object fields ∧
    (∃ items, Fields.get? fields "dependencies" = some (.list items) ∧ items.length = uses) ∧
    ∃ items, Fields.get? fields "dependents" = some (.list items) ∧ items.length = used

theorem FileNode.isToldAs {graph : DependencyGraph} (distinct : graph.nodes.paths.Nodup)
    {node : FileNode} (member : node ∈ graph.nodes) :
    node.IsToldAs graph node.dependencies.length node.dependents.length := by
  refine ⟨rfl, ?_, _, rfl, ⟨_, rfl, List.length_map _⟩, ⟨_, rfl, List.length_map _⟩⟩
  intro file same
  rw [Digest.fileLine, same, NodeMap.get?_of_mem distinct member]
  rfl

/-- The numbers of a graph as the lines of a Markdown list, with its largest degrees. -/
def Digraph.countLines (g : Digraph) : List String :=
  let list (counts : List (String × Nat)) : List String :=
    counts.map fun count => s!"  - {count.1}: {count.2}\n"
  ["\n## Dependencies\n", s!"- Nodes: {g.vertices.length}\n", s!"- Edges: {g.edges.length}\n",
    "- Top fan-in:\n"] ++ list (g.metrics 5).topFanIn ++
  ["- Top fan-out:\n"] ++ list (g.metrics 5).topFanOut

theorem Digraph.countLines_prefix {graph : DependencyGraph} (distinct : graph.nodes.paths.Nodup)
    (known : graph.nodes.toDigraph.vertices.length = graph.nodes.length) :
    graph.nodes.toDigraph.countLines <+: Markdown.dependencies graph := by
  have added := (NodeMap.toDigraph_describes distinct 5).sumOut
  rw [List.sum_eq_foldl, List.foldl_map] at added
  rw [countLines, known, ← added, Markdown.dependencies]
  exact ((List.prefix_append _ _).trans (List.prefix_append _ _)).trans (List.prefix_append _ _)

/-- Of nodes with different paths, the numbers and the document describe one simple graph. Of the nodes
of files, the vertices of this graph are the files, its edges are their dependencies, and its degrees are
the numbers of dependencies and dependents, which all reports tell. -/
theorem NodeMap.reports_count_one_graph :
    (∀ (nodes : NodeMap) (limit : Int), (nodes.map (·.path)).Nodup →
      nodes.toDigraph.Describes nodes (nodes.toDigraph.metrics limit) limit) ∧
    ∀ (files : List SourceFile) (limit : Int),
      let graph := DependencyGraph.ofFiles files
      let g := graph.nodes.toDigraph
      g.vertices = graph.nodes.map (·.path) ∧ g.edges = graph.nodes.edges ∧
      (g.metrics limit).fanOut = graph.nodes.map (fun node => (node.path, node.dependencies.length)) ∧
      (g.metrics limit).fanIn = graph.nodes.map (fun node => (node.path, node.dependents.length)) ∧
      (∀ node ∈ graph.nodes,
        node.IsToldAs graph node.dependencies.length node.dependents.length) ∧
      g.countLines <+: Markdown.dependencies graph := by
  refine ⟨fun nodes limit distinct => toDigraph_describes distinct limit, ?_⟩
  intro files limit graph g
  have distinct : graph.nodes.paths.Nodup := build_paths_nodup files
  have vertices : g.vertices = graph.nodes.map (·.path) := by
    have whole := toDigraph_vertices distinct
    have none : graph.nodes.unknownTargets = [] := build_unknownTargets files
    rw [none, List.append_nil] at whole
    exact whole
  refine ⟨vertices, ?_, build_fanOut files, build_fanIn files, ?_, ?_⟩
  · exact (toDigraph_edges distinct).trans (build_edges_eraseDups files)
  · intro node member
    exact FileNode.isToldAs distinct member
  · apply Digraph.countLines_prefix distinct
    show g.vertices.length = graph.nodes.length
    rw [vertices, List.length_map]

/-- A file that uses itself and another one twice, which uses a file that is no node. -/
def loopNodes : NodeMap :=
  [⟨"a", [], [], ["b", "b", "a"], [], []⟩, ⟨"b", [], [], ["x"], [], []⟩]

theorem NodeMap.reports_count_one_graph_of_loop :
    (loopNodes.map (·.path)).Nodup ∧ loopNodes.toDigraph.vertices = ["a", "b", "x"] ∧
      loopNodes.toDigraph.edges = [("a", "b"), ("a", "a"), ("b", "x")] ∧
      ((loopNodes.toDigraph.metrics 1).fanIn.map (·.2)).sum = 3 := by
  have distinct : (loopNodes.map (·.path)).Nodup := by decide
  have described := reports_count_one_graph.1 loopNodes 1 distinct
  refine ⟨distinct, ?_, ?_, ?_⟩
  · rw [described.vertices]
    decide
  · rw [described.edges]
    decide
  · rw [described.sumIn, described.edges]
    decide

end CodeSurvey
