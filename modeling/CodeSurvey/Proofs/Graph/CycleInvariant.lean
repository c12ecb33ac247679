import CodeSurvey.Proofs.Graph.CycleSteps

/-!
What holds in every state of the cycle search. The way, the stack and the set of open files tell one
story (`Aligned`), and the files that have been left are in an order in which each depends only on
files left before it, but for the legs that close a cycle (`Explored`).
-/

set_option autoImplicit false

namespace CodeSurvey.CycleSearch

open Way

/-- The stack holds the files of the way, the last one on top; so does the set of open files. -/
structure Aligned (s : CycleSearch) : Prop where
  frames : s.stack.map Prod.fst = s.trail.reverse
  members : s.onStack = s.trail.reverse
  distinct : s.trail.Nodup
  seen : s.trail ⊆ s.visited

theorem fresh_aligned : Aligned fresh :=
  ⟨rfl, rfl, List.nodup_nil, List.nil_subset _⟩

namespace Aligned

theorem trail_of_top {s : CycleSearch} {current : String} {later : List String}
    {below : List (String × List String)} (aligned : Aligned s)
    (top : s.stack = (current, later) :: below) :
    s.trail = (below.map Prod.fst).reverse ++ [current] := by
  have frames := aligned.frames
  rw [top, List.map_cons] at frames
  rw [← List.reverse_reverse s.trail, ← frames, List.reverse_cons]

theorem trail_of_idle {s : CycleSearch} (aligned : Aligned s) (idle : s.stack = []) :
    s.trail = [] := by
  have frames := aligned.frames
  rw [idle, List.map_nil] at frames
  exact List.reverse_eq_nil_iff.mp frames.symm

theorem mem_onStack {s : CycleSearch} (aligned : Aligned s) (path : String) :
    path ∈ s.onStack ↔ path ∈ s.trail := by
  rw [aligned.members, List.mem_reverse]

theorem start_eq {s : CycleSearch} (aligned : Aligned s) (idle : s.stack = [])
    (nodes : NodeMap) (path : String) : s.start nodes path = s.enter nodes path := by
  have same : { s with trail := [] } = s := by rw [← aligned.trail_of_idle idle]
  rw [start, same]

theorem enter {s : CycleSearch} {path : String} (aligned : Aligned s) (nodes : NodeMap)
    (unseen : path ∉ s.visited) : Aligned (s.enter nodes path) := by
  refine ⟨?_, ?_, ?_, ?_⟩
  · simp only [CycleSearch.enter, List.map_cons, aligned.frames, List.reverse_append,
      List.reverse_singleton, List.singleton_append]
  · simp only [CycleSearch.enter, aligned.members, List.reverse_append, List.reverse_singleton,
      List.singleton_append]
  · have new : path ∉ s.trail := fun member => unseen (aligned.seen member)
    change (s.trail ++ [path]).Nodup
    rw [← List.concat_eq_append]
    exact aligned.distinct.concat new
  · intro other member
    rcases List.mem_append.mp member with old | last
    · exact List.mem_cons_of_mem _ (aligned.seen old)
    · rw [List.mem_singleton.mp last]
      exact List.mem_cons_self

theorem passing {s : CycleSearch} {current next : String} {later : List String}
    {below : List (String × List String)} (aligned : Aligned s)
    (top : s.stack = (current, next :: later) :: below) :
    Aligned (s.passing current later below) := by
  refine ⟨?_, aligned.members, aligned.distinct, aligned.seen⟩
  have frames := aligned.frames
  rw [top] at frames
  exact frames

theorem close {s : CycleSearch} (aligned : Aligned s) (path : String) :
    Aligned (s.close path) := by
  unfold CycleSearch.close
  dsimp only
  split
  · exact aligned
  · exact ⟨aligned.frames, aligned.members, aligned.distinct, aligned.seen⟩

theorem leaving {s : CycleSearch} {current : String} {below : List (String × List String)}
    (aligned : Aligned s) (top : s.stack = (current, []) :: below) :
    Aligned (s.leaving current below) := by
  have trail := aligned.trail_of_top top
  have distinct := aligned.distinct
  have members := aligned.members
  rw [trail, List.nodup_append] at distinct
  rw [trail, List.reverse_append, List.reverse_reverse, List.reverse_singleton,
    List.singleton_append] at members
  have others : ∀ path ∈ below.map Prod.fst, path ≠ current := fun path member =>
    distinct.2.2 path (List.mem_reverse.mpr member) current (List.mem_singleton_self current)
  have left : (s.leaving current below).trail = (below.map Prod.fst).reverse := by
    rw [CycleSearch.leaving, trail, List.dropLast_concat]
  refine ⟨?_, ?_, ?_, ?_⟩
  · rw [left, List.reverse_reverse]
    rfl
  · rw [left, List.reverse_reverse]
    change s.onStack.filter (· ≠ current) = _
    rw [members, List.filter_cons_of_neg (by simp), List.filter_eq_self]
    intro path member
    simpa using others path member
  · rw [left]
    exact distinct.1
  · rw [left]
    intro path member
    exact aligned.seen (trail ▸ List.mem_append_left _ member)

theorem move {nodes : NodeMap} {s t : CycleSearch} (aligned : Aligned s) (move : Move nodes s t) :
    Aligned t := by
  cases move with
  | leave top => exact aligned.leaving top
  | enter top unseen => exact (aligned.passing top).enter nodes unseen
  | close top seen above => exact (aligned.passing top).close _
  | pass top seen aside => exact aligned.passing top

end Aligned

theorem Reached.aligned {nodes : NodeMap} {s : CycleSearch} (reached : Reached nodes s) :
    Aligned s := by
  induction reached with
  | fresh => exact fresh_aligned
  | move before step ih => exact ih.move step
  | start before idle member unseen ih =>
      rw [ih.start_eq idle]
      exact ih.enter nodes unseen

/-- A cycle with this closing leg has been found: its text is known. -/
def Closes (nodes : NodeMap) (reported : List String) (path target : String) : Prop :=
  ∃ loop, IsSimpleCycle nodes.DependsOn loop ∧ closingLeg? loop = some (path, target) ∧
    cycleKey loop ∈ reported

theorem Closes.mono {nodes : NodeMap} {reported more : List String} {path target : String}
    (closes : Closes nodes reported path target) (grown : reported ⊆ more) :
    Closes nodes more path target := by
  obtain ⟨loop, simple, leg, known⟩ := closes
  exact ⟨loop, simple, leg, grown known⟩

/-- A dependency that needs no further look. -/
def Settled (nodes : NodeMap) (reported left : List String) (path target : String) : Prop :=
  target ∈ left ∨ Closes nodes reported path target

theorem Settled.mono {nodes : NodeMap} {reported more left further : List String}
    {path target : String} (settled : Settled nodes reported left path target)
    (grown : reported ⊆ more) (wider : left ⊆ further) :
    Settled nodes more further path target := by
  rcases settled with gone | closes
  · exact .inl (wider gone)
  · exact .inr (closes.mono grown)

/-- Each frame of the stack has looked at the first of its dependencies, and all of these are settled
but for the one that leads to the frame above, which is `pending`. -/
def Frames (nodes : NodeMap) (reported left : List String) :
    Option String → List (String × List String) → Prop
  | _, [] => True
  | pending, (path, later) :: below =>
    (∃ looked, nodes.dependenciesOf path = looked ++ later ∧
      ∀ target ∈ looked, Settled nodes reported left path target ∨ pending = some target) ∧
    Frames nodes reported left (some path) below

theorem Frames.mono {nodes : NodeMap} {reported more left further : List String}
    {pending other : Option String} {stack : List (String × List String)}
    (frames : Frames nodes reported left pending stack) (grown : reported ⊆ more)
    (wider : left ⊆ further)
    (turned : ∀ target, pending = some target → target ∈ further ∨ other = some target) :
    Frames nodes more further other stack := by
  induction stack generalizing pending other with
  | nil => trivial
  | cons frame below ih =>
      obtain ⟨path, later⟩ := frame
      obtain ⟨⟨looked, split, settled⟩, rest⟩ := frames
      refine ⟨⟨looked, split, ?_⟩, ih rest fun _ same => .inr same⟩
      intro target member
      rcases settled target member with done | waiting
      · exact .inl (done.mono grown wider)
      · rcases turned target waiting with gone | still
        · exact .inl (.inl gone)
        · exact .inr still

/-- The files that have been left, the last one first: each depends only on files left before it, but
for closing legs. -/
def LeftInOrder (nodes : NodeMap) (reported : List String) : List String → Prop
  | [] => True
  | path :: before =>
    (∀ target, nodes.DependsOn path target → Settled nodes reported before path target) ∧
    LeftInOrder nodes reported before

theorem LeftInOrder.mono {nodes : NodeMap} {reported more left : List String}
    (ordered : LeftInOrder nodes reported left) (grown : reported ⊆ more) :
    LeftInOrder nodes more left := by
  induction left with
  | nil => trivial
  | cons path before ih =>
      refine ⟨fun target edge => ?_, ih ordered.2⟩
      exact (ordered.1 target edge).mono grown (List.Subset.refl _)

/-- The invariant of the search. `left` lists the files that have been left; `pending` is a dependency
of the current file that has been looked at and is not settled yet. -/
structure Explored (nodes : NodeMap) (left : List String) (pending : Option String)
    (s : CycleSearch) : Prop where
  aligned : Aligned s
  visited : ∀ path, path ∈ s.visited ↔ path ∈ s.trail ∨ path ∈ left
  apart : ∀ path ∈ s.trail, path ∉ left
  once : left.Nodup
  ordered : LeftInOrder nodes s.reported left
  frames : Frames nodes s.reported left pending s.stack
  linked : ∀ leg ∈ legs s.trail, nodes.DependsOn leg.1 leg.2
  keys : s.reported = (s.cycles.map cycleKey).reverse
  sound : ∀ way ∈ s.cycles, IsSimpleCycle nodes.DependsOn way

theorem fresh_explored (nodes : NodeMap) : Explored nodes [] none fresh :=
  ⟨fresh_aligned, by simp [fresh], by simp, List.nodup_nil, trivial, trivial, by simp [fresh], rfl,
    by simp [fresh]⟩

namespace Explored

variable {nodes : NodeMap} {left : List String} {pending : Option String} {s : CycleSearch}
  {current next : String} {later : List String} {below : List (String × List String)}

theorem dependsOn_top (explored : Explored nodes left pending s)
    (top : s.stack = (current, next :: later) :: below) : nodes.DependsOn current next := by
  have frames := explored.frames
  rw [top] at frames
  obtain ⟨⟨looked, split, -⟩, -⟩ := frames
  rw [NodeMap.dependsOn_iff, split]
  exact List.mem_append_right _ List.mem_cons_self

theorem passing (explored : Explored nodes left none s)
    (top : s.stack = (current, next :: later) :: below) :
    Explored nodes left (some next) (s.passing current later below) := by
  have frames := explored.frames
  rw [top] at frames
  obtain ⟨⟨looked, split, settled⟩, rest⟩ := frames
  refine { explored with
    aligned := explored.aligned.passing top
    frames := ⟨⟨looked ++ [next], ?_, ?_⟩, rest⟩ }
  · rw [split, List.append_assoc, List.singleton_append]
  · intro target member
    rcases List.mem_append.mp member with old | last
    · exact .inl ((settled target old).resolve_right (by simp))
    · rw [List.mem_singleton.mp last]
      exact .inr rfl

theorem settle (explored : Explored nodes left (some next) s)
    (top : s.stack = (current, later) :: below)
    (settled : Settled nodes s.reported left current next) : Explored nodes left none s := by
  have frames := explored.frames
  rw [top] at frames
  obtain ⟨⟨looked, split, known⟩, rest⟩ := frames
  refine { explored with frames := ?_ }
  rw [top]
  refine ⟨⟨looked, split, ?_⟩, rest⟩
  intro target member
  rcases known target member with done | waiting
  · exact .inl done
  · rw [← Option.some.inj waiting]
    exact .inl settled

theorem enter {path : String} (explored : Explored nodes left (some path) s)
    (unseen : path ∉ s.visited)
    (link : ∀ last, s.trail.getLast? = some last → nodes.DependsOn last path) :
    Explored nodes left none (s.enter nodes path) where
  aligned := explored.aligned.enter nodes unseen
  visited := by
    intro other
    change other ∈ path :: s.visited ↔ other ∈ s.trail ++ [path] ∨ other ∈ left
    rw [List.mem_cons, explored.visited, List.mem_append, List.mem_singleton, or_assoc,
      or_left_comm]
  apart := by
    intro other member gone
    rcases List.mem_append.mp member with old | last
    · exact explored.apart other old gone
    · rw [List.mem_singleton.mp last] at gone
      exact unseen ((explored.visited path).mpr (.inr gone))
  once := explored.once
  ordered := explored.ordered
  frames := ⟨⟨[], rfl, by simp⟩, explored.frames⟩
  linked := by
    intro leg member
    change leg ∈ legs (s.trail ++ [path]) at member
    rcases List.eq_nil_or_concat s.trail with empty | ⟨front, last, trail⟩
    · rw [empty] at member
      cases member
    · rw [List.concat_eq_append] at trail
      rw [trail, List.append_assoc, List.singleton_append, legs_concat, ← trail] at member
      rcases List.mem_append.mp member with old | added
      · exact explored.linked leg old
      · rw [List.mem_singleton.mp added]
        exact link last (by rw [trail, List.getLast?_concat])
  keys := explored.keys
  sound := explored.sound

theorem record {loop : List String} (explored : Explored nodes left pending s)
    (simple : IsSimpleCycle nodes.DependsOn loop) :
    Explored nodes left pending
      { s with reported := cycleKey loop :: s.reported, cycles := s.cycles ++ [loop] } where
  aligned := ⟨explored.aligned.frames, explored.aligned.members, explored.aligned.distinct,
    explored.aligned.seen⟩
  visited := explored.visited
  apart := explored.apart
  once := explored.once
  ordered := explored.ordered.mono (List.subset_cons_self _ _)
  frames := explored.frames.mono (List.subset_cons_self _ _) (List.Subset.refl _)
    (fun _ same => .inr same)
  linked := explored.linked
  keys := by
    rw [explored.keys, List.map_append, List.reverse_append]
    rfl
  sound := by
    intro way member
    rcases List.mem_append.mp member with old | last
    · exact explored.sound way old
    · rw [List.mem_singleton.mp last]
      exact simple

/-- The part of the way from an open file on, closed by a dependency of the current file. -/
theorem closing_loop (explored : Explored nodes left pending s)
    (top : s.stack = (current, later) :: below) (edge : nodes.DependsOn current next)
    (above : next ∈ s.trail) :
    IsSimpleCycle nodes.DependsOn (s.trail.drop (s.trail.idxOf next) ++ [next]) ∧
      closingLeg? (s.trail.drop (s.trail.idxOf next) ++ [next]) = some (current, next) := by
  have inside : s.trail.idxOf next < s.trail.length := List.idxOf_lt_length_iff.mpr above
  have begins : s.trail.drop (s.trail.idxOf next) =
      next :: s.trail.drop (s.trail.idxOf next + 1) := by
    rw [List.drop_eq_getElem_cons inside, List.getElem_idxOf]
  obtain ⟨front, ends⟩ : ∃ front, s.trail.drop (s.trail.idxOf next) = front ++ [current] := by
    have trail := explored.aligned.trail_of_top top
    rw [trail] at inside ⊢
    rw [List.length_append, List.length_singleton] at inside
    exact ⟨_, List.drop_append_of_le_length (by omega)⟩
  have whole : s.trail.drop (s.trail.idxOf next) ++ [next] = front ++ [current, next] := by
    rw [ends, List.append_assoc, List.singleton_append]
  refine ⟨⟨⟨?_, ?_, ?_⟩, ?_⟩, ?_⟩
  · rw [begins]
    simp
  · rw [List.getLast?_concat, begins]
    rfl
  · intro leg member
    rw [whole, legs_concat, ← ends] at member
    rcases List.mem_append.mp member with old | last
    · apply explored.linked
      rw [← List.take_append_drop (s.trail.idxOf next) s.trail]
      exact legs_suffix _ _ leg old
    · rw [List.mem_singleton.mp last]
      exact edge
  · rw [List.dropLast_concat]
    exact explored.aligned.distinct.sublist (List.drop_sublist _ _)
  · rw [whole, closingLeg?_concat]

theorem close (explored : Explored nodes left (some next) s)
    (top : s.stack = (current, later) :: below) (edge : nodes.DependsOn current next)
    (above : next ∈ s.trail) : Explored nodes left none (s.close next) := by
  obtain ⟨simple, leg⟩ := explored.closing_loop top edge above
  unfold CycleSearch.close
  dsimp only
  split
  · rename_i known
    exact explored.settle top (.inr ⟨_, simple, leg, by simpa using known⟩)
  · exact (explored.record simple).settle top (.inr ⟨_, simple, leg, List.mem_cons_self⟩)

theorem leaving (explored : Explored nodes left none s)
    (top : s.stack = (current, []) :: below) :
    Explored nodes (current :: left) none (s.leaving current below) := by
  have trail := explored.aligned.trail_of_top top
  have dropped : (s.leaving current below).trail = (below.map Prod.fst).reverse := by
    rw [CycleSearch.leaving, trail, List.dropLast_concat]
  have onWay : current ∈ s.trail := trail ▸ List.mem_append_right _ (List.mem_singleton_self _)
  have distinct := explored.aligned.distinct
  rw [trail, List.nodup_append] at distinct
  have frames := explored.frames
  rw [top] at frames
  obtain ⟨⟨looked, split, settled⟩, rest⟩ := frames
  refine ⟨explored.aligned.leaving top, ?_, ?_, ?_, ⟨?_, explored.ordered⟩, ?_, ?_, explored.keys,
    explored.sound⟩
  · intro path
    change path ∈ s.visited ↔ _
    rw [explored.visited, dropped, trail, List.mem_append, List.mem_singleton, List.mem_cons,
      or_assoc]
  · rw [dropped]
    intro path member gone
    rcases List.mem_cons.mp gone with same | before
    · exact distinct.2.2 path member current (List.mem_singleton_self _) same
    · exact explored.apart path (trail ▸ List.mem_append_left _ member) before
  · exact List.nodup_cons.mpr ⟨explored.apart current onWay, explored.once⟩
  · intro target edge
    rw [NodeMap.dependsOn_iff, split, List.append_nil] at edge
    exact (settled target edge).resolve_right (by simp)
  · -- What waited for the file that is left is settled now that it is among those left.
    apply rest.mono (List.Subset.refl _) (List.subset_cons_self _ _)
    intro target same
    rw [← Option.some.inj same]
    exact .inl List.mem_cons_self
  · intro leg member
    exact explored.linked leg (legs_dropLast _ leg member)

theorem move {t : CycleSearch} (explored : Explored nodes left none s) (move : Move nodes s t) :
    ∃ further, Explored nodes further none t := by
  cases move with
  | leave top => exact ⟨_, explored.leaving top⟩
  | @enter current next later below top unseen =>
      refine ⟨left, (explored.passing top).enter unseen ?_⟩
      intro last ends
      have trail := (explored.aligned.passing top).trail_of_top rfl
      rw [trail, List.getLast?_concat, Option.some.injEq] at ends
      rw [← ends]
      exact explored.dependsOn_top top
  | close top seen above =>
      exact ⟨left, (explored.passing top).close rfl (explored.dependsOn_top top)
        ((explored.aligned.mem_onStack _).mp above)⟩
  | @pass current next later below top seen aside =>
      have gone : next ∈ left := ((explored.visited next).mp seen).resolve_left
        (fun above => aside ((explored.aligned.mem_onStack next).mpr above))
      exact ⟨left, (explored.passing top).settle rfl (.inl gone)⟩

theorem start {path : String} (explored : Explored nodes left none s) (idle : s.stack = [])
    (unseen : path ∉ s.visited) : Explored nodes left none (s.start nodes path) := by
  have empty := explored.aligned.trail_of_idle idle
  have waiting : Explored nodes left (some path) s :=
    { explored with frames := by rw [idle]; trivial }
  rw [explored.aligned.start_eq idle]
  exact waiting.enter unseen (by simp [empty])

end Explored

theorem Reached.explored {nodes : NodeMap} {s : CycleSearch} (reached : Reached nodes s) :
    ∃ left, Explored nodes left none s := by
  induction reached with
  | fresh => exact ⟨[], fresh_explored nodes⟩
  | move before step ih =>
      obtain ⟨left, explored⟩ := ih
      exact explored.move step
  | start before idle member unseen ih =>
      obtain ⟨left, explored⟩ := ih
      exact ⟨left, explored.start idle unseen⟩

end CodeSurvey.CycleSearch
