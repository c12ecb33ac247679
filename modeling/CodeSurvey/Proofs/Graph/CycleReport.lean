import CodeSurvey.Proofs.Graph.CycleInvariant
import CodeSurvey.Proofs.Graph.CycleKey

set_option autoImplicit false

namespace CodeSurvey

open Way CycleSearch

namespace CycleSearch

/-- A dependency that closes no cycle found so far. -/
def Onward (nodes : NodeMap) (reported : List String) (path target : String) : Prop :=
  nodes.DependsOn path target ∧ ¬ Closes nodes reported path target

namespace LeftInOrder

variable {nodes : NodeMap} {reported left : List String} {path target : String}

theorem onward_mem (ordered : LeftInOrder nodes reported left) (member : path ∈ left)
    (edge : Onward nodes reported path target) : target ∈ left := by
  induction left with
  | nil => cases member
  | cons first before ih =>
      apply List.mem_cons_of_mem
      rcases List.mem_cons.mp member with rfl | earlier
      · exact (ordered.1 target edge.1).resolve_right edge.2
      · exact ih ordered.2 earlier

theorem reach_mem (ordered : LeftInOrder nodes reported left) (member : path ∈ left)
    (reach : Relation.ReflTransGen (Onward nodes reported) path target) : target ∈ left := by
  induction reach with
  | refl => exact member
  | tail _ edge ih => exact ordered.onward_mem ih edge

/-- Onward dependencies lead to files left before, so they never lead back. -/
theorem acyclic (ordered : LeftInOrder nodes reported left) (once : left.Nodup)
    (member : path ∈ left) : ¬ Relation.TransGen (Onward nodes reported) path path := by
  intro back
  induction left with
  | nil => cases member
  | cons first before ih =>
      rw [List.nodup_cons] at once
      rcases List.mem_cons.mp member with rfl | earlier
      · obtain ⟨target, edge, reach⟩ := Relation.TransGen.head'_iff.mp back
        have down : target ∈ before := (ordered.1 target edge.1).resolve_right edge.2
        exact once.1 (LeftInOrder.reach_mem ordered.2 down reach)
      · exact ih ordered.2 once.2 earlier

end LeftInOrder

/-- A whole search: the onward dependencies have no cycle, the texts known are those of the reported
cycles, and every reported way is a simple cycle. -/
theorem complete_spec (nodes : NodeMap) :
    (∀ path, ¬ Relation.TransGen (Onward nodes (complete nodes).reported) path path) ∧
      (complete nodes).reported = ((complete nodes).cycles.map cycleKey).reverse ∧
      ∀ way ∈ (complete nodes).cycles, IsSimpleCycle nodes.DependsOn way := by
  obtain ⟨rest, seen⟩ := complete_atRest nodes
  obtain ⟨left, explored⟩ := rest.reached.explored
  have empty := explored.aligned.trail_of_idle rest.idle
  refine ⟨?_, explored.keys, explored.sound⟩
  intro path back
  obtain ⟨_, edge, _⟩ := Relation.TransGen.head'_iff.mp back
  obtain ⟨node, found, _⟩ := edge.1
  have reached := seen node (NodeMap.mem_of_get? found)
  rw [NodeMap.path_of_get? found, explored.visited, empty] at reached
  have member : path ∈ left := reached.resolve_left (by simp)
  exact explored.ordered.acyclic explored.once member back

theorem mem_complete_reported (nodes : NodeMap) (key : String) :
    key ∈ (complete nodes).reported ↔ ∃ way ∈ nodes.cycles, cycleKey way = key := by
  rw [(complete_spec nodes).2.1, List.mem_reverse, List.mem_map]
  rfl

/-- Every cycle has a leg that closes a cycle found by the search. -/
theorem closes_of_isCycle {nodes : NodeMap} {way : List String}
    (cycle : IsCycle nodes.DependsOn way) :
    ∃ leg ∈ legs way, Closes nodes (complete nodes).reported leg.1 leg.2 := by
  apply Classical.byContradiction
  intro none
  have onward : IsCycle (Onward nodes (complete nodes).reported) way :=
    cycle.mono fun leg member edge => ⟨edge, fun closes => none ⟨leg, member, closes⟩⟩
  obtain ⟨path, back⟩ := onward.transGen
  exact (complete_spec nodes).1 path back

end CycleSearch

/-- Every reported way is a way of two files or more along dependencies that ends where it begins and
comes to no file twice before; nothing is reported just if no file leads back to itself. -/
theorem NodeMap.cycles_sound_and_complete (nodes : NodeMap) :
    (∀ way ∈ nodes.cycles, IsSimpleCycle nodes.DependsOn way) ∧
      (nodes.cycles = [] ↔ ∀ path, ¬ Relation.TransGen nodes.DependsOn path path) := by
  obtain ⟨acyclic, keys, sound⟩ := complete_spec nodes
  refine ⟨sound, ?_, ?_⟩
  · intro none path back
    have unknown : (complete nodes).reported = [] := by
      rw [keys]
      change (nodes.cycles.map cycleKey).reverse = []
      rw [none]
      rfl
    apply acyclic path
    rw [unknown]
    refine Relation.TransGen.mono (fun _ _ edge => ⟨edge, ?_⟩) path path back
    rintro ⟨_, _, _, known⟩
    cases known
  · intro free
    apply List.eq_nil_iff_forall_not_mem.mpr
    intro way member
    obtain ⟨path, back⟩ := (sound way member).transGen
    exact free path back

namespace NodeMap

theorem arrowFree_of_isCycle {nodes : NodeMap} {way : List String}
    (free : ∀ node ∈ nodes, ArrowFree node.path) (cycle : IsCycle nodes.DependsOn way) :
    way ≠ [] ∧ ∀ path ∈ way, ArrowFree path := by
  refine ⟨List.ne_nil_of_length_pos (by have := cycle.long; omega), ?_⟩
  intro path member
  obtain ⟨_, node, found, _⟩ := cycle.edge_of_mem member
  rw [← path_of_get? found]
  exact free node (mem_of_get? found)

/-- Where no path holds an arrow, a dependency that closes a cycle with a known text closes a reported
cycle. -/
theorem mem_cycles_of_closes {nodes : NodeMap} {path target : String}
    (free : ∀ node ∈ nodes, ArrowFree node.path)
    (closes : Closes nodes (complete nodes).reported path target) :
    ∃ found ∈ nodes.cycles, closingLeg? found = some (path, target) := by
  obtain ⟨loop, simple, leg, known⟩ := closes
  obtain ⟨found, member, same⟩ := (mem_complete_reported nodes _).mp known
  have sound := (complete_spec nodes).2.2 found member
  obtain ⟨foundSome, foundFree⟩ := arrowFree_of_isCycle free sound.toIsCycle
  obtain ⟨loopSome, loopFree⟩ := arrowFree_of_isCycle free simple.toIsCycle
  rw [cycleKey_injective foundSome loopSome foundFree loopFree same] at member
  exact ⟨loop, member, leg⟩

/-- A cycle always has the closing leg of a simple cycle with the text of a reported one. Where no path
holds an arrow that is the reported cycle itself, and the closing legs of the reported cycles, once
taken out, leave no cycle. -/
theorem cycles_meet_closing_legs (nodes : NodeMap) :
    (∀ way, IsCycle nodes.DependsOn way →
      ∃ loop, IsSimpleCycle nodes.DependsOn loop ∧
        (∃ leg ∈ legs way, closingLeg? loop = some leg) ∧
        ∃ found ∈ nodes.cycles, cycleKey found = cycleKey loop) ∧
    ((∀ node ∈ nodes, ArrowFree node.path) →
      (∀ way, IsCycle nodes.DependsOn way →
        ∃ found ∈ nodes.cycles, ∃ leg ∈ legs way, closingLeg? found = some leg) ∧
      ∀ path, ¬ Relation.TransGen
        (fun path target => nodes.DependsOn path target ∧
          ∀ found ∈ nodes.cycles, closingLeg? found ≠ some (path, target)) path path) := by
  refine ⟨?_, fun free => ⟨?_, ?_⟩⟩
  · intro way cycle
    obtain ⟨leg, inside, loop, simple, closing, known⟩ := closes_of_isCycle cycle
    exact ⟨loop, simple, ⟨leg, inside, closing⟩, (mem_complete_reported nodes _).mp known⟩
  · intro way cycle
    obtain ⟨leg, inside, closes⟩ := closes_of_isCycle cycle
    obtain ⟨found, member, closing⟩ := mem_cycles_of_closes free closes
    exact ⟨found, member, leg, inside, closing⟩
  · intro path back
    apply (complete_spec nodes).1 path
    refine Relation.TransGen.mono (fun _ _ edge => ⟨edge.1, fun closes => ?_⟩) path path back
    obtain ⟨found, member, closing⟩ := mem_cycles_of_closes free closes
    exact edge.2 found member closing

/-- Nodes with nothing but their paths and dependencies. -/
def ofEdges (edges : List (String × List String)) : NodeMap :=
  edges.map fun (path, dependencies) => ⟨path, [], [], dependencies, [], []⟩

/-- Two cycles with one closing leg each. -/
theorem cycles_meet_closing_legs_of_two_loops :
    let nodes := ofEdges [("a", ["b", "a"]), ("b", ["c", "c"]), ("c", ["a"])]
    (∀ node ∈ nodes, ArrowFree node.path) ∧
      nodes.cycles = [["a", "b", "c", "a"], ["a", "a"]] ∧
      ∀ path, ¬ Relation.TransGen
        (fun path target => nodes.DependsOn path target ∧
          ∀ found ∈ nodes.cycles, closingLeg? found ≠ some (path, target)) path path := by
  intro nodes
  have free : ∀ node ∈ nodes, ArrowFree node.path := by
    intro node member
    apply arrowFree_of_not_mem
    revert node
    decide
  exact ⟨free, by decide +kernel, ((cycles_meet_closing_legs nodes).2 free).2⟩

/-- One path with an arrow gives two cycles one text, and the second is not reported. No leg of it is
the closing leg of the first. -/
theorem cycles_miss_loop_with_known_text :
    let nodes := ofEdges [("a", ["b->c", "b"]), ("b->c", ["a"]), ("b", ["c"]), ("c", ["a"])]
    (∀ node ∈ nodes, node.path ≠ "") ∧ IsCycle nodes.DependsOn ["a", "b", "c", "a"] ∧
      ¬ ∃ found ∈ nodes.cycles, ∃ leg ∈ legs ["a", "b", "c", "a"], closingLeg? found = some leg := by
  intro nodes
  have reported : nodes.cycles = [["a", "b->c", "a"]] := by decide +kernel
  refine ⟨by decide, ⟨by decide, rfl, ?_⟩, ?_⟩
  · intro leg member
    rw [dependsOn_iff]
    revert leg
    decide
  · rw [reported]
    decide

end NodeMap

end CodeSurvey
