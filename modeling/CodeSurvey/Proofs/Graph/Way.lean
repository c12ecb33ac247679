import CodeSurvey.Proofs.Graph.NodeTable
import Mathlib.Logic.Relation

set_option autoImplicit false

namespace CodeSurvey

namespace NodeMap

/-- The file at `path` is a node, and `target` is among its dependencies. -/
def DependsOn (nodes : NodeMap) (path target : String) : Prop :=
  ∃ node, nodes.get? path = some node ∧ target ∈ node.dependencies

theorem dependsOn_iff (nodes : NodeMap) (path target : String) :
    nodes.DependsOn path target ↔ target ∈ nodes.dependenciesOf path := by
  unfold DependsOn dependenciesOf
  cases found : nodes.get? path with
  | none => simp
  | some node => simp

end NodeMap

namespace Way

/-- The pairs of neighbours on a way, in order. -/
def legs (way : List String) : List (String × String) :=
  way.zip way.tail

@[simp] theorem legs_nil : legs [] = [] := rfl

@[simp] theorem legs_singleton (path : String) : legs [path] = [] := rfl

@[simp] theorem legs_cons_cons (path next : String) (rest : List String) :
    legs (path :: next :: rest) = (path, next) :: legs (next :: rest) := rfl

/-- The leg from the last file but one to the last file. -/
def closingLeg? (way : List String) : Option (String × String) :=
  (legs way).getLast?

theorem legs_concat (front : List String) (path next : String) :
    legs (front ++ [path, next]) = legs (front ++ [path]) ++ [(path, next)] := by
  induction front with
  | nil => rfl
  | cons first front ih =>
      cases front with
      | nil => rfl
      | cons second front =>
          simp only [List.cons_append, legs_cons_cons] at ih ⊢
          rw [ih]

theorem closingLeg?_concat (front : List String) (path next : String) :
    closingLeg? (front ++ [path, next]) = some (path, next) := by
  simp [closingLeg?, legs_concat]

theorem legs_suffix (front back : List String) : ∀ leg ∈ legs back, leg ∈ legs (front ++ back) := by
  intro leg member
  induction front with
  | nil => exact member
  | cons first front ih =>
      cases rest : front ++ back with
      | nil =>
          rw [rest] at ih
          cases ih
      | cons second tail =>
          rw [rest] at ih
          rw [List.cons_append, rest, legs_cons_cons]
          exact List.mem_cons_of_mem _ ih

theorem legs_dropLast (way : List String) : ∀ leg ∈ legs way.dropLast, leg ∈ legs way := by
  intro leg member
  rcases List.eq_nil_or_concat way with rfl | ⟨front, last, rfl⟩
  · exact member
  · rw [List.concat_eq_append, List.dropLast_concat] at member
    rw [List.concat_eq_append]
    rcases List.eq_nil_or_concat front with rfl | ⟨before, path, rfl⟩
    · cases member
    · rw [List.concat_eq_append] at member ⊢
      rw [List.append_assoc, List.singleton_append, legs_concat]
      exact List.mem_append_left _ member

theorem leg_or_last {way : List String} {path : String} (member : path ∈ way) :
    (∃ next, (path, next) ∈ legs way) ∨ way.getLast? = some path := by
  induction way with
  | nil => cases member
  | cons first rest ih =>
      cases rest with
      | nil =>
          rw [List.mem_singleton.mp member]
          exact .inr rfl
      | cons second rest =>
          rw [legs_cons_cons, List.getLast?_cons_cons]
          rcases List.mem_cons.mp member with rfl | later
          · exact .inl ⟨second, List.mem_cons_self⟩
          · rcases ih later with ⟨next, leg⟩ | last
            · exact .inl ⟨next, List.mem_cons_of_mem _ leg⟩
            · exact .inr last

/-- A way of two files or more along edges that ends where it begins. -/
structure IsCycle (edge : String → String → Prop) (way : List String) : Prop where
  long : 2 ≤ way.length
  closed : way.head? = way.getLast?
  linked : ∀ leg ∈ legs way, edge leg.1 leg.2

/-- A cycle that comes to no file twice before it closes. -/
structure IsSimpleCycle (edge : String → String → Prop) (way : List String) : Prop
    extends IsCycle edge way where
  distinct : way.dropLast.Nodup

theorem transGen_of_linked {edge : String → String → Prop} (path next : String)
    (rest : List String) (linked : ∀ leg ∈ legs (path :: next :: rest), edge leg.1 leg.2) :
    ∃ last, (path :: next :: rest).getLast? = some last ∧ Relation.TransGen edge path last := by
  induction rest generalizing path next with
  | nil => exact ⟨next, rfl, .single (linked (path, next) (by simp))⟩
  | cons third rest ih =>
      have first : edge path next := linked (path, next) (by simp)
      obtain ⟨last, ends, onward⟩ := ih next third
        (fun leg member => linked leg (List.mem_cons_of_mem _ member))
      exact ⟨last, by simpa only [List.getLast?_cons_cons] using ends, .head first onward⟩

theorem IsCycle.transGen {edge : String → String → Prop} {way : List String}
    (cycle : IsCycle edge way) : ∃ path, Relation.TransGen edge path path := by
  obtain ⟨long, closed, linked⟩ := cycle
  match way, long with
  | path :: next :: rest, _ =>
      obtain ⟨last, ends, onward⟩ := transGen_of_linked path next rest linked
      rw [ends, List.head?_cons, Option.some.injEq] at closed
      exact ⟨path, by rwa [← closed] at onward⟩

/-- The last file of a cycle is its first, so each file has a leg that begins at it. -/
theorem IsCycle.edge_of_mem {edge : String → String → Prop} {way : List String}
    (cycle : IsCycle edge way) {path : String} (member : path ∈ way) :
    ∃ next, edge path next := by
  obtain ⟨long, closed, linked⟩ := cycle
  match way, long with
  | first :: second :: rest, _ =>
      rcases leg_or_last member with ⟨next, leg⟩ | last
      · exact ⟨next, linked _ leg⟩
      · rw [last, List.head?_cons, Option.some.injEq] at closed
        rw [← closed]
        exact ⟨second, linked (first, second) List.mem_cons_self⟩

theorem IsCycle.mono {edge other : String → String → Prop} {way : List String}
    (cycle : IsCycle edge way) (kept : ∀ leg ∈ legs way, edge leg.1 leg.2 → other leg.1 leg.2) :
    IsCycle other way :=
  ⟨cycle.long, cycle.closed, fun leg member => kept leg member (cycle.linked leg member)⟩

end Way

end CodeSurvey
