import CodeSurvey.Proofs.Graph.CycleReport
import Mathlib.Data.List.Rotate

/-!
The order in which the cycle search enters files. The way lists its files in that order, and so does
every reported cycle up to the file that closes it. A loop therefore begins with the one of its files
that was entered first, wherever the search came from, and is not reported a second time.
-/

set_option autoImplicit false

namespace CodeSurvey

open Way

/-- Two parts of a list without repeats that keep its order and have the same items are equal. -/
theorem eq_of_perm_of_sublist {whole first second : List String} (once : whole.Nodup)
    (firstPart : first.Sublist whole) (secondPart : second.Sublist whole)
    (same : first.Perm second) : first = second := by
  induction whole generalizing first second with
  | nil => rw [List.sublist_nil.mp firstPart, List.sublist_nil.mp secondPart]
  | cons path rest ih =>
      rw [List.nodup_cons] at once
      cases firstPart with
      | cons _ firstRest =>
          cases secondPart with
          | cons _ secondRest => exact ih once.2 firstRest secondRest same
          | cons_cons _ secondRest =>
              have member : path ∈ first := same.mem_iff.mpr List.mem_cons_self
              exact absurd (firstRest.subset member) once.1
      | cons_cons _ firstRest =>
          cases secondPart with
          | cons _ secondRest =>
              have member : path ∈ second := same.mem_iff.mp List.mem_cons_self
              exact absurd (secondRest.subset member) once.1
          | cons_cons _ secondRest =>
              rw [ih once.2 firstRest secondRest ((List.perm_cons path).mp same)]

/-- A cycle ends where it begins, so its last file can be left out. -/
theorem Way.IsCycle.dropLast_concat {edge : String → String → Prop} {way : List String}
    (cycle : IsCycle edge way) : ∃ first, way.dropLast.head? = some first ∧
      way.dropLast ++ [first] = way := by
  have long : 1 < way.length := cycle.long
  obtain ⟨first, rest, rfl⟩ := List.exists_cons_of_length_pos (by omega : 0 < way.length)
  refine ⟨first, ?_, ?_⟩
  · rw [List.head?_dropLast, if_pos long, List.head?_cons]
  · apply List.dropLast_append_getLast?
    rw [← cycle.closed, List.head?_cons]
    rfl

theorem Way.IsCycle.eq_of_dropLast {edge : String → String → Prop} {way other : List String}
    (cycle : IsCycle edge way) (second : IsCycle edge other)
    (same : way.dropLast = other.dropLast) : way = other := by
  obtain ⟨first, begins, whole⟩ := cycle.dropLast_concat
  obtain ⟨last, ends, rest⟩ := second.dropLast_concat
  rw [← same, begins, Option.some.injEq] at ends
  rw [← whole, ← rest, same, ends]

namespace CycleSearch

/-- The files reached so far in the order in which they were entered. -/
def entered (s : CycleSearch) : List String :=
  s.visited.reverse

/-- The way and the reported cycles keep the order in which files were entered, no file was entered
twice and no text reported twice. -/
structure InOrder (s : CycleSearch) : Prop where
  once : s.entered.Nodup
  trail : s.trail.Sublist s.entered
  cycles : ∀ way ∈ s.cycles, way.dropLast.Sublist s.entered
  texts : s.reported.Nodup

theorem fresh_inOrder : InOrder fresh :=
  ⟨List.nodup_nil, List.nil_sublist _, by simp [fresh], List.nodup_nil⟩

namespace InOrder

variable {nodes : NodeMap} {s t : CycleSearch}

theorem enter {path : String} (ordered : InOrder s) (unseen : path ∉ s.visited) :
    InOrder (s.enter nodes path) := by
  have grown : (s.enter nodes path).entered = s.entered ++ [path] := List.reverse_cons
  refine ⟨?_, ?_, ?_, ordered.texts⟩
  · have once := ordered.once
    rw [entered, List.nodup_reverse] at once ⊢
    exact List.nodup_cons.mpr ⟨unseen, once⟩
  · rw [grown]
    exact ordered.trail.append (List.Sublist.refl [path])
  · intro way member
    rw [grown]
    exact (ordered.cycles way member).trans (List.sublist_append_left _ _)

theorem start {path : String} (ordered : InOrder s) (unseen : path ∉ s.visited) :
    InOrder (s.start nodes path) := by
  have idle : InOrder { s with trail := [] } :=
    ⟨ordered.once, List.nil_sublist _, ordered.cycles, ordered.texts⟩
  exact idle.enter unseen

theorem close (ordered : InOrder s) (path : String) : InOrder (s.close path) := by
  unfold CycleSearch.close
  dsimp only
  split
  · exact ordered
  · rename_i unknown
    refine ⟨ordered.once, ordered.trail, ?_, ?_⟩
    · intro way member
      rcases List.mem_append.mp member with old | last
      · exact ordered.cycles way old
      · rw [List.mem_singleton.mp last, List.dropLast_concat]
        exact (List.drop_sublist _ _).trans ordered.trail
    · exact List.nodup_cons.mpr ⟨by simpa using unknown, ordered.texts⟩

theorem move (ordered : InOrder s) (move : Move nodes s t) : InOrder t := by
  have passed : ∀ current later below, InOrder (s.passing current later below) :=
    fun _ _ _ => ⟨ordered.once, ordered.trail, ordered.cycles, ordered.texts⟩
  cases move with
  | leave top =>
      exact ⟨ordered.once, (List.dropLast_sublist _).trans ordered.trail, ordered.cycles,
        ordered.texts⟩
  | enter top unseen => exact (passed _ _ _).enter unseen
  | close top seen above => exact (passed _ _ _).close _
  | pass top seen aside => exact passed _ _ _

/-- Reported cycles with the same files are one cycle. -/
theorem eq_of_perm {first second : List String} (ordered : InOrder s)
    (sound : ∀ way ∈ s.cycles, IsSimpleCycle nodes.DependsOn way) (firstFound : first ∈ s.cycles)
    (secondFound : second ∈ s.cycles) (same : first.dropLast.Perm second.dropLast) :
    first = second := by
  have files : first.dropLast = second.dropLast := eq_of_perm_of_sublist ordered.once
    (ordered.cycles first firstFound) (ordered.cycles second secondFound) same
  exact (sound first firstFound).eq_of_dropLast (sound second secondFound).toIsCycle files

end InOrder

theorem Reached.inOrder {nodes : NodeMap} {s : CycleSearch} (reached : Reached nodes s) :
    InOrder s := by
  induction reached with
  | fresh => exact fresh_inOrder
  | move before step ih => exact ih.move step
  | start before idle member unseen ih => exact ih.start unseen

end CycleSearch

open CycleSearch

namespace NodeMap

/-- No two reported cycles have the same files, in whatever order. -/
theorem cycles_files_differ (nodes : NodeMap) :
    nodes.cycles.Pairwise fun first second => ¬ first.dropLast.Perm second.dropLast := by
  obtain ⟨-, keys, sound⟩ := complete_spec nodes
  have ordered := (complete_atRest nodes).1.reached.inOrder
  have texts := ordered.texts
  rw [keys, List.nodup_reverse, List.Nodup, List.pairwise_map] at texts
  apply texts.imp_of_mem
  intro first second firstFound secondFound apart same
  exact apart (congrArg cycleKey (ordered.eq_of_perm sound firstFound secondFound same))

/-- Each loop is reported at most once: of two reported cycles, neither is the other begun at another
of its files. -/
theorem cycles_never_rotated (nodes : NodeMap) :
    nodes.cycles.Pairwise fun first second =>
      ¬ List.IsRotated first.dropLast second.dropLast :=
  (cycles_files_differ nodes).imp fun differ rotated => differ rotated.perm

-- A loop that two other files lead into is reported from the file of it that is reached first.
example :
    cycles [⟨"c", [], [], ["b", "a"], [], []⟩, ⟨"d", [], [], ["a"], [], []⟩,
      ⟨"a", [], [], ["b"], [], []⟩, ⟨"b", [], [], ["a", "a"], [], []⟩] = [["b", "a", "b"]] := by
  decide +kernel

end NodeMap

end CodeSurvey
