import CodeSurvey.Graph.Node
import CodeSurvey.Proofs.Resolution.Meaning
import Mathlib.Data.List.Nodup

set_option autoImplicit false

namespace CodeSurvey

theorem eraseDups_concat {α : Type} [BEq α] [LawfulBEq α] (front : List α) (item : α) :
    (front ++ [item]).eraseDups =
      if item ∈ front.eraseDups then front.eraseDups else front.eraseDups ++ [item] := by
  rw [List.eraseDups_append]
  by_cases old : item ∈ front <;> simp [List.removeAll, old, List.eraseDups_cons]

namespace FileNode

@[simp] theorem link_path (node : FileNode) (specifier : String) (meaning : Resolution) :
    (node.link specifier meaning).path = node.path := by
  unfold link
  split
  · split <;> rfl
  · rfl
  · rfl

@[simp] theorem link_dependents (node : FileNode) (specifier : String) (meaning : Resolution) :
    (node.link specifier meaning).dependents = node.dependents := by
  unfold link
  split
  · split <;> rfl
  · rfl
  · rfl

/-- The dependencies are files of the project, each listed once. -/
structure DependsWithin (paths : List String) (node : FileNode) : Prop where
  distinct : node.dependencies.Nodup
  inside : node.dependencies ⊆ paths

theorem DependsWithin.link {paths : List String} {node : FileNode}
    (within : node.DependsWithin paths) (specifier : String) (meaning : Resolution)
    (known : ∀ path, meaning = .resolved path → path ∈ paths) :
    (node.link specifier meaning).DependsWithin paths := by
  unfold FileNode.link
  split
  · rename_i path
    split
    · exact within
    · rename_i new
      refine ⟨?_, ?_⟩
      · change (node.dependencies ++ [path]).Nodup
        rw [← List.concat_eq_append]
        exact within.distinct.concat (by simpa using new)
      · change node.dependencies ++ [path] ⊆ paths
        rw [List.append_subset]
        refine ⟨within.inside, ?_⟩
        intro other single
        rw [List.mem_singleton.mp single]
        exact known path rfl
  · exact ⟨within.distinct, within.inside⟩
  · exact within

theorem ofFile_path (paths : List String) (file : SourceFile) :
    (ofFile paths file).path = file.path := by
  unfold ofFile
  apply List.foldlRecOn (motive := fun node : FileNode => node.path = file.path)
  · rfl
  · intro node same specifier _
    rw [link_path, same]

theorem ofFile_dependents (paths : List String) (file : SourceFile) :
    (ofFile paths file).dependents = [] := by
  unfold ofFile
  apply List.foldlRecOn (motive := fun node : FileNode => node.dependents = [])
  · rfl
  · intro node none specifier _
    rw [link_dependents, none]

theorem ofFile_dependsWithin (paths : List String) (file : SourceFile) :
    (ofFile paths file).DependsWithin paths := by
  unfold ofFile
  apply List.foldlRecOn (motive := fun node : FileNode => node.DependsWithin paths)
  · exact ⟨List.nodup_nil, List.nil_subset _⟩
  · intro node within specifier _
    exact within.link specifier _ fun path resolved => Resolution.resolve_mem resolved

end FileNode

namespace NodeMap

def paths (nodes : NodeMap) : List String :=
  nodes.map (·.path)

theorem path_of_get? {nodes : NodeMap} {path : String} {node : FileNode}
    (found : nodes.get? path = some node) : node.path = path := by
  have same := List.find?_some found
  simpa using same

theorem mem_of_get? {nodes : NodeMap} {path : String} {node : FileNode}
    (found : nodes.get? path = some node) : node ∈ nodes :=
  List.mem_of_find?_eq_some found

theorem insert_paths (nodes : NodeMap) (node : FileNode) :
    (nodes.insert node).paths =
      if node.path ∈ nodes.paths then nodes.paths else nodes.paths ++ [node.path] := by
  induction nodes with
  | nil => simp [insert, paths]
  | cons first rest ih =>
      unfold insert
      split
      · rename_i same
        simp [paths, same]
      · rename_i other
        have apart : node.path ≠ first.path := fun same => other same.symm
        simp only [paths, List.map_cons, List.mem_cons, apart, false_or] at ih ⊢
        rw [ih]
        by_cases old : node.path ∈ rest.map (·.path)
        · simp only [old, ↓reduceIte]
        · simp only [old, ↓reduceIte, List.cons_append]

theorem get?_insert (nodes : NodeMap) (node : FileNode) (path : String) :
    (nodes.insert node).get? path = if node.path = path then some node else nodes.get? path := by
  unfold get?
  induction nodes with
  | nil => by_cases same : node.path = path <;> simp [insert, same]
  | cons first rest ih =>
      unfold insert
      split
      · rename_i taken
        by_cases same : node.path = path
        · simp [same]
        · simp [taken, same]
      · rename_i other
        by_cases here : first.path = path
        · have apart : node.path ≠ path := fun same => other (here.trans same.symm)
          simp [here, apart]
        · rw [List.find?_cons_of_neg (by simpa using here),
            List.find?_cons_of_neg (by simpa using here), ih]

theorem insert_paths_nodup (nodes : NodeMap) (node : FileNode) (distinct : nodes.paths.Nodup) :
    (nodes.insert node).paths.Nodup := by
  rw [insert_paths]
  split
  · exact distinct
  · rename_i new
    rw [← List.concat_eq_append]
    exact distinct.concat new

theorem ofList_paths_nodup (list : List FileNode) : (ofList list).paths.Nodup := by
  unfold ofList
  apply List.foldlRecOn (motive := fun nodes : NodeMap => nodes.paths.Nodup)
  · exact List.nodup_nil
  · intro nodes distinct node _
    exact insert_paths_nodup nodes node distinct

private theorem foldl_insert_paths (list : List FileNode) (nodes : NodeMap) (front : List String)
    (known : nodes.paths = front.eraseDups) :
    NodeMap.paths (list.foldl insert nodes) = (front ++ list.map (·.path)).eraseDups := by
  induction list generalizing nodes front with
  | nil => simpa using known
  | cons node rest ih =>
      have next : (nodes.insert node).paths = (front ++ [node.path]).eraseDups := by
        rw [insert_paths, eraseDups_concat, known]
      rw [List.foldl_cons, ih _ _ next, List.map_cons, List.append_assoc, List.singleton_append]

/-- The paths of a map made from a list of nodes, in the order in which they first came. -/
theorem ofList_paths (list : List FileNode) :
    (ofList list).paths = (list.map (·.path)).eraseDups :=
  foldl_insert_paths list [] [] rfl

/-- Of several nodes with one path the last one stays. -/
theorem get?_ofList (list : List FileNode) (path : String) :
    (ofList list).get? path = list.reverse.find? (·.path == path) := by
  have general : ∀ nodes : NodeMap, get? (list.foldl insert nodes) path =
      (list.reverse.find? (·.path == path)).or (nodes.get? path) := by
    induction list with
    | nil => intro nodes; rfl
    | cons node rest ih =>
        intro nodes
        rw [List.foldl_cons, ih, List.reverse_cons, List.find?_append, Option.or_assoc, get?_insert]
        by_cases same : node.path = path <;> simp [same]
  rw [ofList, general]
  exact Option.or_none

/-- With each path once, a node is found under its path. -/
theorem get?_of_mem {nodes : NodeMap} (distinct : nodes.paths.Nodup) {node : FileNode}
    (member : node ∈ nodes) : nodes.get? node.path = some node := by
  induction nodes with
  | nil => cases member
  | cons first rest ih =>
      simp only [paths, List.map_cons, List.nodup_cons] at distinct
      rcases List.mem_cons.mp member with rfl | later
      · simp [get?]
      · have apart : first.path ≠ node.path := by
          intro same
          exact distinct.1 (same ▸ List.mem_map_of_mem later)
        have found := ih distinct.2 later
        unfold get? at found ⊢
        rw [List.find?_cons_of_neg (by simpa using apart), found]

end NodeMap

end CodeSurvey
