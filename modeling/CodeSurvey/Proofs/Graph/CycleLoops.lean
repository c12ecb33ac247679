import CodeSurvey.Proofs.Graph.CycleReport
import Mathlib.Logic.Function.Iterate

set_option autoImplicit false

namespace CodeSurvey.CycleSearch

/-- The dependency that the next step takes from a list, with the file whose list it is. -/
def next? (s : CycleSearch) : Option (String × String) :=
  match s.stack with
  | (current, next :: _) :: _ => some (current, next)
  | _ => none

theorem next?_of_top {s : CycleSearch} {current next : String} {later : List String}
    {below : List (String × List String)} (top : s.stack = (current, next :: later) :: below) :
    s.next? = some (current, next) := by
  rw [next?, top]

theorem next?_of_spent {s : CycleSearch} {current : String} {below : List (String × List String)}
    (top : s.stack = (current, []) :: below) : s.next? = none := by
  rw [next?, top]

/-- The states of the loops: the nodes that the outer loop has not come to yet, the state of the search,
and the dependencies taken so far, in order. The outer loop goes on only when the way is empty. -/
inductive Loops (nodes : NodeMap) :
    List FileNode → CycleSearch → List (String × String) → Prop
  | begin : Loops nodes nodes fresh []
  | skip {node : FileNode} {ahead : List FileNode} {s : CycleSearch}
      {taken : List (String × String)} (before : Loops nodes (node :: ahead) s taken)
      (idle : s.stack = []) (seen : node.path ∈ s.visited) : Loops nodes ahead s taken
  | start {node : FileNode} {ahead : List FileNode} {s : CycleSearch}
      {taken : List (String × String)} (before : Loops nodes (node :: ahead) s taken)
      (idle : s.stack = []) (unseen : node.path ∉ s.visited) :
      Loops nodes ahead (s.start nodes node.path) taken
  | step {ahead : List FileNode} {s : CycleSearch} {taken : List (String × String)}
      (before : Loops nodes ahead s taken) (busy : s.stack ≠ []) :
      Loops nodes ahead (s.step nodes) (taken ++ s.next?.toList)

namespace Loops

variable {nodes : NodeMap} {ahead : List FileNode} {s : CycleSearch} {taken : List (String × String)}

theorem reached (loops : Loops nodes ahead s taken) : ahead <:+ nodes ∧ Reached nodes s := by
  induction loops with
  | begin => exact ⟨List.suffix_rfl, .fresh⟩
  | skip before idle seen ih => exact ⟨(List.suffix_cons _ _).trans ih.1, ih.2⟩
  | start before idle unseen ih =>
      have member := ih.1.subset List.mem_cons_self
      exact ⟨(List.suffix_cons _ _).trans ih.1, .start ih.2 idle member unseen⟩
  | step before busy ih => exact ⟨ih.1, .move ih.2 (step_move nodes _ busy)⟩

theorem drain (loops : Loops nodes ahead s taken) (fuel : Nat) :
    ∃ more, Loops nodes ahead (CycleSearch.drain nodes fuel s) more := by
  induction fuel generalizing s taken with
  | zero => exact ⟨taken, loops⟩
  | succ fuel ih =>
      unfold CycleSearch.drain
      split
      · exact ⟨taken, loops⟩
      · rename_i busy
        exact ih (.step loops (by simpa using busy))

theorem visit {node : FileNode} (loops : Loops nodes (node :: ahead) s taken) (idle : s.stack = []) :
    (∃ more, Loops nodes ahead (s.visit nodes node.path) more) ∧
      (s.visit nodes node.path).stack = [] := by
  unfold CycleSearch.visit
  split
  · rename_i seen
    exact ⟨⟨taken, .skip loops idle (by simpa using seen)⟩, idle⟩
  · rename_i new
    have unseen : node.path ∉ s.visited := by simpa using new
    have small := start_load nodes s node.path idle unseen
    exact ⟨(Loops.start loops idle unseen).drain _, drain_stack nodes _ _ small⟩

theorem foldl_visit (loops : Loops nodes ahead s taken) (idle : s.stack = []) :
    ∃ more, Loops nodes [] (ahead.foldl (fun s node => s.visit nodes node.path) s) more := by
  induction ahead generalizing s taken with
  | nil => exact ⟨taken, loops⟩
  | cons node ahead ih =>
      obtain ⟨⟨more, next⟩, empty⟩ := loops.visit idle
      exact ih next empty

end Loops

/-- A whole search is the state in which the loops have come to an end. -/
theorem complete_loops (nodes : NodeMap) : ∃ taken, Loops nodes [] (complete nodes) taken :=
  Loops.begin.foldl_visit rfl

/-- What has been taken from the list of a file. -/
def takenFrom (path : String) (taken : List (String × String)) : List String :=
  (taken.filter (·.1 = path)).map Prod.snd

theorem takenFrom_append (path : String) (taken more : List (String × String)) :
    takenFrom path (taken ++ more) = takenFrom path taken ++ takenFrom path more := by
  rw [takenFrom, List.filter_append, List.map_append]
  rfl

theorem takenFrom_concat_self (path next : String) (taken : List (String × String)) :
    takenFrom path (taken ++ [(path, next)]) = takenFrom path taken ++ [next] := by
  rw [takenFrom_append]
  simp [takenFrom]

theorem takenFrom_concat_other {path current : String} (other : path ≠ current) (next : String)
    (taken : List (String × String)) :
    takenFrom path (taken ++ [(current, next)]) = takenFrom path taken := by
  rw [takenFrom_append]
  simp [takenFrom, Ne.symm other]

/-- The record fits the lists: from each only a first part has been taken, from the list of an open file
all but what its frame still holds, and from that of a file not reached nothing. -/
structure Drawn (nodes : NodeMap) (s : CycleSearch) (taken : List (String × String)) : Prop where
  inOrder : ∀ path, takenFrom path taken <+: nodes.dependenciesOf path
  held : ∀ frame ∈ s.stack, takenFrom frame.1 taken ++ frame.2 = nodes.dependenciesOf frame.1
  untouched : ∀ path, path ∉ s.visited → takenFrom path taken = []

theorem fresh_drawn (nodes : NodeMap) : Drawn nodes fresh [] :=
  ⟨fun _ => List.nil_prefix, fun _ member => absurd member List.not_mem_nil, fun _ _ => rfl⟩

namespace Drawn

variable {nodes : NodeMap} {s : CycleSearch} {taken : List (String × String)} {current next : String}
  {later : List String} {below : List (String × List String)}

theorem enter {path : String} (drawn : Drawn nodes s taken) (unseen : path ∉ s.visited) :
    Drawn nodes (s.enter nodes path) taken := by
  refine ⟨drawn.inOrder, ?_, ?_⟩
  · intro frame member
    rcases List.mem_cons.mp member with rfl | old
    · rw [drawn.untouched path unseen, List.nil_append]
    · exact drawn.held frame old
  · intro other away
    exact drawn.untouched other fun seen => away (List.mem_cons_of_mem path seen)

/-- Taking the next dependency of the current file. The frames below belong to other files, since no
file is on the way twice. -/
theorem passing (drawn : Drawn nodes s taken) (aligned : Aligned s)
    (top : s.stack = (current, next :: later) :: below) :
    Drawn nodes (s.passing current later below) (taken ++ [(current, next)]) := by
  have trail := aligned.trail_of_top top
  have distinct := aligned.distinct
  rw [trail, List.nodup_append] at distinct
  have whole : takenFrom current taken ++ next :: later = nodes.dependenciesOf current :=
    drawn.held (current, next :: later) (top ▸ List.mem_cons_self)
  have advanced : takenFrom current (taken ++ [(current, next)]) ++ later =
      nodes.dependenciesOf current := by
    rw [takenFrom_concat_self, List.append_assoc, List.singleton_append, whole]
  refine ⟨?_, ?_, ?_⟩
  · intro path
    by_cases same : path = current
    · rw [same]
      exact ⟨later, advanced⟩
    · rw [takenFrom_concat_other same]
      exact drawn.inOrder path
  · intro frame member
    rcases List.mem_cons.mp member with rfl | deeper
    · exact advanced
    · have under : frame.1 ∈ (below.map Prod.fst).reverse :=
        List.mem_reverse.mpr (List.mem_map_of_mem deeper)
      have other := distinct.2.2 frame.1 under current (List.mem_singleton_self current)
      rw [takenFrom_concat_other other]
      exact drawn.held frame (top ▸ List.mem_cons_of_mem _ deeper)
  · intro path away
    have onWay : current ∈ s.visited :=
      aligned.seen (trail ▸ List.mem_append_right _ (List.mem_singleton_self current))
    have other : path ≠ current := fun same => away (same ▸ onWay)
    rw [takenFrom_concat_other other]
    exact drawn.untouched path away

theorem close (drawn : Drawn nodes s taken) (path : String) : Drawn nodes (s.close path) taken := by
  refine ⟨drawn.inOrder, ?_, ?_⟩
  · rw [close_stack]
    exact drawn.held
  · rw [close_visited]
    exact drawn.untouched

theorem leaving (drawn : Drawn nodes s taken) (top : s.stack = (current, []) :: below) :
    Drawn nodes (s.leaving current below) taken :=
  ⟨drawn.inOrder, fun frame member => drawn.held frame (top ▸ List.mem_cons_of_mem _ member),
    drawn.untouched⟩

theorem move {t : CycleSearch} (drawn : Drawn nodes s taken) (aligned : Aligned s)
    (move : Move nodes s t) : Drawn nodes t (taken ++ s.next?.toList) := by
  cases move with
  | leave top =>
      rw [next?_of_spent top, Option.toList_none, List.append_nil]
      exact drawn.leaving top
  | enter top unseen =>
      rw [next?_of_top top, Option.toList_some]
      exact (drawn.passing aligned top).enter unseen
  | close top seen above =>
      rw [next?_of_top top, Option.toList_some]
      exact (drawn.passing aligned top).close _
  | pass top seen aside =>
      rw [next?_of_top top, Option.toList_some]
      exact drawn.passing aligned top

end Drawn

theorem Loops.drawn {nodes : NodeMap} {ahead : List FileNode} {s : CycleSearch}
    {taken : List (String × String)} (loops : Loops nodes ahead s taken) : Drawn nodes s taken := by
  induction loops with
  | begin => exact fresh_drawn nodes
  | skip before idle seen ih => exact ih
  | start before idle unseen ih =>
      rw [before.reached.2.aligned.start_eq idle]
      exact ih.enter unseen
  | step before busy ih => exact ih.move before.reached.2.aligned (step_move nodes _ busy)

theorem Move.visited_nodup {nodes : NodeMap} {s t : CycleSearch} (move : Move nodes s t)
    (once : s.visited.Nodup) : t.visited.Nodup := by
  cases move with
  | leave top => exact once
  | enter top unseen => exact List.nodup_cons.mpr ⟨unseen, once⟩
  | close top seen above =>
      rw [close_visited]
      exact once
  | pass top seen aside => exact once

/-- No file is entered twice. -/
theorem Reached.visited_nodup {nodes : NodeMap} {s : CycleSearch} (reached : Reached nodes s) :
    s.visited.Nodup := by
  induction reached with
  | fresh => exact List.nodup_nil
  | move before step ih => exact step.visited_nodup ih
  | start before idle member unseen ih => exact List.nodup_cons.mpr ⟨unseen, ih⟩

theorem Reached.load_le {nodes : NodeMap} {s : CycleSearch} (reached : Reached nodes s) :
    load nodes s ≤ effort nodes := by
  induction reached with
  | fresh =>
      have bound := unseenLoad_lt nodes []
      have begins : load nodes CycleSearch.fresh = unseenLoad nodes [] := by
        simp [load, CycleSearch.fresh]
      omega
  | move before step ih =>
      have smaller := step.load_lt
      omega
  | start before idle member unseen ih => exact start_load nodes _ _ idle unseen

theorem drain_eq_iterate (nodes : NodeMap) (fuel : Nat) (s : CycleSearch) :
    drain nodes fuel s = (step nodes)^[fuel] s := by
  induction fuel generalizing s with
  | zero => rfl
  | succ fuel ih =>
      unfold drain
      rw [Function.iterate_succ_apply]
      split
      · rename_i idle
        have stays : s.step nodes = s := by
          unfold step
          rw [List.isEmpty_iff.mp idle]
        rw [stays, Function.iterate_fixed stays]
      · exact ih (s.step nodes)

theorem Reached.terminates {nodes : NodeMap} {s : CycleSearch} (reached : Reached nodes s) :
    ∃ count ≤ effort nodes, ((step nodes)^[count] s).stack = [] := by
  refine ⟨load nodes s, reached.load_le, ?_⟩
  rw [← drain_eq_iterate]
  exact drain_stack nodes _ s (Nat.le_refl _)

/-- What holds in every state of the loops. The way lists the files of the stack, from the first one
pushed to the last and none twice. The open files are those of the way; all of them have been reached,
and none is open when the outer loop goes on, so an open dependency always has a place on the way. No
file is entered twice, its list is taken from in order, and the way becomes empty within a number of
steps that the graph bounds. -/
structure InStep (nodes : NodeMap) (s : CycleSearch) (taken : List (String × String)) : Prop where
  trail : s.trail = (s.stack.map Prod.fst).reverse
  distinct : s.trail.Nodup
  members : ∀ path, path ∈ s.onStack ↔ path ∈ s.trail
  seen : s.onStack ⊆ s.visited
  closed : s.stack = [] → s.onStack = []
  placed : ∀ current next later below, s.stack = (current, next :: later) :: below →
    next ∈ s.onStack → s.trail.idxOf next < s.trail.length
  once : s.visited.Nodup
  inOrder : ∀ path, takenFrom path taken <+: nodes.dependenciesOf path
  ends : ∃ count ≤ effort nodes, ((step nodes)^[count] s).stack = []

/-- The collections agree in every state of the loops and the loops come to an end; the state behind
them is that of a whole search. -/
theorem loops_in_step (nodes : NodeMap) :
    (∀ ahead s taken, Loops nodes ahead s taken → InStep nodes s taken) ∧
      (∃ taken, Loops nodes [] (complete nodes) taken) ∧ (complete nodes).stack = [] := by
  refine ⟨?_, complete_loops nodes, (complete_atRest nodes).1.idle⟩
  intro ahead s taken loops
  have reached := loops.reached.2
  have aligned := reached.aligned
  exact {
    trail := by rw [aligned.frames, List.reverse_reverse]
    distinct := aligned.distinct
    members := aligned.mem_onStack
    seen := fun path member => aligned.seen ((aligned.mem_onStack path).mp member)
    closed := fun idle => by rw [aligned.members, aligned.trail_of_idle idle, List.reverse_nil]
    placed := fun _ next _ _ _ above =>
      List.idxOf_lt_length_iff.mpr ((aligned.mem_onStack next).mp above)
    once := reached.visited_nodup
    inOrder := loops.drawn.inOrder
    ends := reached.terminates }

/-- A node that names itself, another one twice and a file that is no node: the state behind the first
two steps, in which the dependency of `b` on `a` is about to close a cycle. -/
theorem loops_in_step_of_repeated_dependencies :
    let nodes := NodeMap.ofEdges [("a", ["a", "b", "b", "x"]), ("b", ["a"])]
    let s := ((fresh.start nodes "a").step nodes).step nodes
    Loops nodes [nodes[1]] s [("a", "a"), ("a", "b")] ∧
      InStep nodes s [("a", "a"), ("a", "b")] ∧ s.trail = ["a", "b"] ∧ s.next? = some ("b", "a") := by
  intro nodes s
  have begun : Loops nodes [nodes[1]] (fresh.start nodes "a") [] :=
    @Loops.start nodes nodes[0] [nodes[1]] fresh [] .begin rfl List.not_mem_nil
  have loops : Loops nodes [nodes[1]] s [("a", "a"), ("a", "b")] :=
    .step (.step begun (by decide)) (by decide)
  exact ⟨loops, (loops_in_step nodes).1 _ _ _ loops, by decide, by decide⟩

end CodeSurvey.CycleSearch
