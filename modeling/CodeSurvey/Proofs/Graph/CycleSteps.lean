import CodeSurvey.Graph.Cycle
import CodeSurvey.Proofs.Graph.Way
import Mathlib.Algebra.GroupWithZero.Nat

set_option autoImplicit false

namespace CodeSurvey.CycleSearch

/-- Looks past the next dependency of the current file. -/
def passing (s : CycleSearch) (current : String) (later : List String)
    (below : List (String × List String)) : CycleSearch :=
  { s with stack := (current, later) :: below }

def leaving (s : CycleSearch) (current : String) (below : List (String × List String)) :
    CycleSearch :=
  { s with
    stack := below
    trail := s.trail.dropLast
    onStack := s.onStack.filter (· ≠ current) }

/-- What one step can do. -/
inductive Move (nodes : NodeMap) (s : CycleSearch) : CycleSearch → Prop
  | leave {current : String} {below : List (String × List String)}
      (top : s.stack = (current, []) :: below) :
      Move nodes s (s.leaving current below)
  | enter {current next : String} {later : List String} {below : List (String × List String)}
      (top : s.stack = (current, next :: later) :: below) (unseen : next ∉ s.visited) :
      Move nodes s ((s.passing current later below).enter nodes next)
  | close {current next : String} {later : List String} {below : List (String × List String)}
      (top : s.stack = (current, next :: later) :: below) (seen : next ∈ s.visited)
      (above : next ∈ s.onStack) :
      Move nodes s ((s.passing current later below).close next)
  | pass {current next : String} {later : List String} {below : List (String × List String)}
      (top : s.stack = (current, next :: later) :: below) (seen : next ∈ s.visited)
      (aside : next ∉ s.onStack) :
      Move nodes s (s.passing current later below)

theorem step_move (nodes : NodeMap) (s : CycleSearch) (busy : s.stack ≠ []) :
    Move nodes s (s.step nodes) := by
  unfold step
  split
  · rename_i idle
    exact absurd idle busy
  · rename_i current below top
    exact .leave top
  · rename_i current next later below top
    dsimp only
    split
    · rename_i unseen
      exact .enter top (by simpa using unseen)
    · rename_i seen
      have known : next ∈ s.visited := by simpa using seen
      split
      · rename_i above
        exact .close top known (by simpa using above)
      · rename_i aside
        exact .pass top known (by simpa using aside)

/-- The states of a search. A new start is made from a node that has not been reached, when the way
of the last one is empty. -/
inductive Reached (nodes : NodeMap) : CycleSearch → Prop
  | fresh : Reached nodes fresh
  | move {s t : CycleSearch} (before : Reached nodes s) (step : Move nodes s t) : Reached nodes t
  | start {s : CycleSearch} {node : FileNode} (before : Reached nodes s) (idle : s.stack = [])
      (member : node ∈ nodes) (unseen : node.path ∉ s.visited) :
      Reached nodes (s.start nodes node.path)

theorem Reached.drain {nodes : NodeMap} {s : CycleSearch} (reached : Reached nodes s)
    (fuel : Nat) : Reached nodes (drain nodes fuel s) := by
  induction fuel generalizing s with
  | zero => exact reached
  | succ fuel ih =>
      unfold CycleSearch.drain
      split
      · exact reached
      · rename_i busy
        exact ih (.move reached (step_move nodes s (by simpa using busy)))

theorem close_visited (s : CycleSearch) (path : String) : (s.close path).visited = s.visited := by
  unfold close
  dsimp only
  split <;> rfl

theorem close_stack (s : CycleSearch) (path : String) : (s.close path).stack = s.stack := by
  unfold close
  dsimp only
  split <;> rfl

theorem Move.visited {nodes : NodeMap} {s t : CycleSearch} (move : Move nodes s t) :
    s.visited ⊆ t.visited := by
  cases move with
  | leave top => exact List.Subset.refl _
  | enter top unseen => exact List.subset_cons_self _ _
  | close top seen above =>
      rw [close_visited]
      exact List.Subset.refl _
  | pass top seen aside => exact List.Subset.refl _

theorem drain_visited (nodes : NodeMap) (fuel : Nat) (s : CycleSearch) :
    s.visited ⊆ (drain nodes fuel s).visited := by
  induction fuel generalizing s with
  | zero => exact List.Subset.refl _
  | succ fuel ih =>
      unfold drain
      split
      · exact List.Subset.refl _
      · rename_i busy
        have first := (step_move nodes s (by simpa using busy)).visited
        exact List.Subset.trans first (ih (s.step nodes))

/-- The work that a frame of the stack still asks for: a dependency may have to be entered and left. -/
def frameLoad (frame : String × List String) : Nat :=
  1 + 2 * frame.2.length

/-- The work that the nodes not reached so far may ask for. -/
def unseenLoad (nodes : NodeMap) (visited : List String) : Nat :=
  ((nodes.filter fun node => node.path ∉ visited).map fun node =>
    1 + 2 * node.dependencies.length).sum

/-- A bound on the steps until the way is empty. -/
def load (nodes : NodeMap) (s : CycleSearch) : Nat :=
  (s.stack.map frameLoad).sum + unseenLoad nodes s.visited

theorem unseenLoad_cons (node : FileNode) (nodes : NodeMap) (visited : List String) :
    unseenLoad (node :: nodes) visited =
      (if node.path ∈ visited then 0 else 1 + 2 * node.dependencies.length) +
        unseenLoad nodes visited := by
  by_cases seen : node.path ∈ visited <;> simp [unseenLoad, seen]

theorem unseenLoad_visit_le (nodes : NodeMap) (visited : List String) (path : String) :
    unseenLoad nodes (path :: visited) ≤ unseenLoad nodes visited := by
  induction nodes with
  | nil => exact Nat.le_refl _
  | cons node nodes ih =>
      rw [unseenLoad_cons, unseenLoad_cons]
      by_cases seen : node.path ∈ visited
      · simpa only [List.mem_cons_of_mem _ seen, seen, ↓reduceIte, Nat.zero_add] using ih
      · simp only [seen, ↓reduceIte]
        split <;> omega

theorem unseenLoad_visit (nodes : NodeMap) (visited : List String) (node : FileNode)
    (member : node ∈ nodes) (unseen : node.path ∉ visited) :
    unseenLoad nodes (node.path :: visited) + (1 + 2 * node.dependencies.length) ≤
      unseenLoad nodes visited := by
  induction nodes with
  | nil => cases member
  | cons first nodes ih =>
      rw [unseenLoad_cons, unseenLoad_cons]
      rcases List.mem_cons.mp member with rfl | later
      · have rest := unseenLoad_visit_le nodes visited node.path
        simp only [List.mem_cons_self, ↓reduceIte, unseen]
        omega
      · have rest := ih later
        by_cases seen : first.path ∈ visited
        · simp only [List.mem_cons_of_mem _ seen, seen, ↓reduceIte]
          omega
        · simp only [seen, ↓reduceIte]
          split <;> omega

theorem unseenLoad_lt (nodes : NodeMap) (visited : List String) :
    unseenLoad nodes visited < effort nodes := by
  unfold effort
  induction nodes with
  | nil => exact Nat.zero_lt_one
  | cons node nodes ih =>
      rw [unseenLoad_cons]
      simp only [List.length_cons, List.flatMap_cons, List.length_append]
      split <;> omega

/-- Entering a file costs at most one step more than was accounted for it: a file that is no node has
to be left again. -/
theorem load_enter (nodes : NodeMap) (s : CycleSearch) (path : String)
    (unseen : path ∉ s.visited) : load nodes (s.enter nodes path) ≤ load nodes s + 1 := by
  simp only [load, enter, List.map_cons, List.sum_cons, frameLoad]
  cases found : nodes.get? path with
  | none =>
      have none : nodes.dependenciesOf path = [] := by simp [NodeMap.dependenciesOf, found]
      have fewer := unseenLoad_visit_le nodes s.visited path
      rw [none, List.length_nil]
      omega
  | some node =>
      have same := NodeMap.path_of_get? found
      have these : nodes.dependenciesOf path = node.dependencies := by
        simp [NodeMap.dependenciesOf, found]
      have fewer := unseenLoad_visit nodes s.visited node (NodeMap.mem_of_get? found)
        (by rwa [same])
      rw [same] at fewer
      rw [these]
      omega

theorem Move.load_lt {nodes : NodeMap} {s t : CycleSearch} (move : Move nodes s t) :
    load nodes t < load nodes s := by
  cases move with
  | leave top =>
      simp only [load, leaving, top, List.map_cons, List.sum_cons, frameLoad]
      omega
  | @enter current next later below top unseen =>
      have entered := load_enter nodes (s.passing current later below) next unseen
      simp only [load, passing, top, List.map_cons, List.sum_cons, frameLoad,
        List.length_cons] at entered ⊢
      omega
  | close top seen above =>
      simp only [load, close_stack, close_visited, passing, top, List.map_cons, List.sum_cons,
        frameLoad, List.length_cons]
      omega
  | pass top seen aside =>
      simp only [load, passing, top, List.map_cons, List.sum_cons, frameLoad, List.length_cons]
      omega

theorem drain_stack (nodes : NodeMap) (fuel : Nat) (s : CycleSearch)
    (enough : load nodes s ≤ fuel) : (drain nodes fuel s).stack = [] := by
  induction fuel generalizing s with
  | zero =>
      cases rest : s.stack with
      | nil => simpa only [drain] using rest
      | cons frame below =>
          simp only [load, rest, List.map_cons, List.sum_cons, frameLoad] at enough
          omega
  | succ fuel ih =>
      unfold drain
      split
      · rename_i idle
        simpa using idle
      · rename_i busy
        have smaller := (step_move nodes s (by simpa using busy)).load_lt
        exact ih (s.step nodes) (by omega)

theorem start_load (nodes : NodeMap) (s : CycleSearch) (path : String) (idle : s.stack = [])
    (unseen : path ∉ s.visited) : load nodes (s.start nodes path) ≤ effort nodes := by
  have entered := load_enter nodes { s with trail := [] } path unseen
  have before : load nodes { s with trail := [] } = unseenLoad nodes s.visited := by
    simp only [load, idle, List.map_nil, List.sum_nil, Nat.zero_add]
  have bound := unseenLoad_lt nodes s.visited
  rw [before] at entered
  exact Nat.le_trans entered bound

/-- The state between two starts. -/
structure AtRest (nodes : NodeMap) (s : CycleSearch) : Prop where
  reached : Reached nodes s
  idle : s.stack = []

theorem AtRest.visit {nodes : NodeMap} {s : CycleSearch} (rest : AtRest nodes s)
    (node : FileNode) (member : node ∈ nodes) :
    AtRest nodes (s.visit nodes node.path) ∧ s.visited ⊆ (s.visit nodes node.path).visited ∧
      node.path ∈ (s.visit nodes node.path).visited := by
  unfold CycleSearch.visit
  split
  · rename_i seen
    exact ⟨rest, List.Subset.refl _, by simpa using seen⟩
  · rename_i new
    have unseen : node.path ∉ s.visited := by simpa using new
    have begun := Reached.start rest.reached rest.idle member unseen
    have small := start_load nodes s node.path rest.idle unseen
    have grown := drain_visited nodes (effort nodes) (s.start nodes node.path)
    refine ⟨⟨begun.drain _, drain_stack nodes _ _ small⟩, ?_, ?_⟩
    · exact List.Subset.trans (List.subset_cons_self _ _) grown
    · exact grown List.mem_cons_self

theorem AtRest.foldl_visit {nodes : NodeMap} (list : List FileNode) {s : CycleSearch}
    (rest : AtRest nodes s) (within : list ⊆ nodes) :
    let t := list.foldl (fun s node => s.visit nodes node.path) s
    AtRest nodes t ∧ s.visited ⊆ t.visited ∧ ∀ node ∈ list, node.path ∈ t.visited := by
  induction list generalizing s with
  | nil => exact ⟨rest, List.Subset.refl _, by simp⟩
  | cons node list ih =>
      obtain ⟨next, grown, seen⟩ := rest.visit node (within List.mem_cons_self)
      obtain ⟨final, more, all⟩ := ih next (fun other member => within (.tail _ member))
      refine ⟨final, List.Subset.trans grown more, ?_⟩
      intro other member
      rcases List.mem_cons.mp member with rfl | later
      · exact more seen
      · exact all other later

theorem fresh_atRest (nodes : NodeMap) : AtRest nodes fresh :=
  ⟨.fresh, rfl⟩

/-- A whole search is a state at rest in which every node has been reached. -/
theorem complete_atRest (nodes : NodeMap) :
    AtRest nodes (complete nodes) ∧ ∀ node ∈ nodes, node.path ∈ (complete nodes).visited := by
  obtain ⟨rest, _, seen⟩ := (fresh_atRest nodes).foldl_visit nodes (List.Subset.refl _)
  exact ⟨rest, seen⟩

end CodeSurvey.CycleSearch
