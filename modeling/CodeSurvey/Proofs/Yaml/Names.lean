import CodeSurvey.Proofs.Except
import CodeSurvey.Proofs.Value.Fields
import CodeSurvey.Yaml.Document

set_option autoImplicit false

namespace CodeSurvey.Yaml

namespace Key

theorem mem_put {pairs : List (Key × Value)} {key : Key} {value : Value} {pair : Key × Value}
    (member : pair ∈ put pairs key value) : pair.2 = value ∨ ∃ old ∈ pairs, pair.2 = old.2 := by
  induction pairs with
  | nil =>
      rw [put, List.mem_singleton] at member
      exact .inl (by rw [member])
  | cons first rest ih =>
      rw [put] at member
      split at member
      · rcases List.mem_cons.mp member with here | later
        · exact .inl (by rw [here])
        · exact .inr ⟨pair, List.mem_cons_of_mem _ later, rfl⟩
      · rcases List.mem_cons.mp member with here | later
        · exact .inr ⟨first, List.mem_cons_self, by rw [here]⟩
        · rcases ih later with new | ⟨old, known, same⟩
          · exact .inl new
          · exact .inr ⟨old, List.mem_cons_of_mem _ known, same⟩

/-- The fields of pairs hold values of the pairs. -/
theorem mem_fields {pairs : List (Key × Value)} {field : String × Value}
    (member : field ∈ fields pairs) : ∃ pair ∈ pairs, field.2 = pair.2 := by
  have kept : ∀ pair ∈ pairs.foldl (fun found pair => put found pair.1 pair.2) [],
      ∃ given ∈ pairs, pair.2 = given.2 := by
    apply List.foldlRecOn (motive := fun found : List (Key × Value) =>
      ∀ pair ∈ found, ∃ given ∈ pairs, pair.2 = given.2)
    · exact fun _ none => absurd none List.not_mem_nil
    · intro found known pair given other put
      rcases mem_put put with new | ⟨old, before, same⟩
      · exact ⟨pair, given, new⟩
      · obtain ⟨first, listed, equal⟩ := known old before
        exact ⟨first, listed, same.trans equal⟩
  obtain ⟨pair, listed, rfl⟩ := List.mem_map.mp (Fields.mem_ofPairs member)
  exact kept pair listed

end Key

namespace Node

theorem both_eq_ok {α β : Type} {first : Built α} {second : Built β} {a : α} {b : β}
    (done : both first second = .ok (a, b)) : first = .ok a ∧ second = .ok b := by
  cases first with
  | error fault => cases second <;> cases done
  | ok a =>
      cases second with
      | error fault => cases done
      | ok b =>
          cases done
          exact ⟨rfl, rfl⟩

theorem mem_of_every {α : Type} {results : List (Built α)} {found : List α}
    (done : every results = .ok found) : ∀ a ∈ found, Except.ok a ∈ results := by
  induction results generalizing found with
  | nil =>
      cases done
      exact fun _ none => absurd none List.not_mem_nil
  | cons first rest ih =>
      rw [every] at done
      cases pair : both first (every rest) with
      | error fault =>
          rw [pair] at done
          cases done
      | ok result =>
          obtain ⟨a, later⟩ := result
          rw [pair] at done
          cases done
          obtain ⟨here, there⟩ := both_eq_ok pair
          intro other member
          rcases List.mem_cons.mp member with rfl | inside
          · exact here ▸ List.mem_cons_self
          · exact List.mem_cons_of_mem _ (ih there other inside)

theorem scalarValue_wellFormed {text : List Char} {plain : Bool} {value : Value}
    (read : scalarValue text plain = .ok value) : value.WellFormed := by
  apply Value.WellFormed.plain
  intro fields same
  subst same
  unfold scalarValue at read
  split at read
  · split at read <;> cases read
  · cases read

/-- What is built of a node has no name twice in an object: the fields of each object are put into their
places by name. -/
theorem build_wellFormed {n level : Nat} {node : Node} {value : Value}
    (built : node.build n level = .ok value) : value.WellFormed := by
  induction n generalizing level node value with
  | zero =>
      cases node <;> cases built <;> exact .plain fun _ same => by cases same
  | succ n ih =>
      cases node with
      | scalar text plain mark =>
          have read : (scalarValue text plain).mapError
              (fun cause => (level, (⟨cause, none, mark⟩ : Fault))) = .ok value := built
          exact scalarValue_wellFormed (Except.mapError_eq_ok.mp read)
      | list items mark =>
          rw [build] at built
          cases all : every (items.map (build n (level + 1))) with
          | error fault =>
              rw [all] at built
              cases built
          | ok found =>
              rw [all] at built
              cases built
              exact .plain fun _ same => by cases same
      | map pairs mark =>
          rw [build] at built
          obtain ⟨⟨taken, own⟩, -, built⟩ := Except.exists_of_bind_eq_ok built
          obtain ⟨found, all, built⟩ := Except.exists_of_bind_eq_ok built
          cases built
          refine .object (Fields.names_ofPairs_nodup _) ?_
          intro field member
          obtain ⟨pair, listed, same⟩ := Key.mem_fields member
          obtain ⟨⟨key, node⟩, -, done⟩ := List.mem_map.mp (mem_of_every all pair listed)
          rw [same]
          exact ih (both_eq_ok done).2

end Node

/-- A document that is read has no name twice in an object. -/
theorem ofText_wellFormed {text : List Char} {value : Value} (read : ofText text = .ok value) :
    value.WellFormed := by
  unfold ofText at read
  split at read
  · cases read
  · obtain ⟨node, -, read⟩ := Except.exists_of_bind_eq_ok read
    cases node with
    | none =>
        cases read
        exact .plain fun _ same => by cases same
    | some node =>
        have read : (node.build ((shallow 0 (tokenize text).1).length + 1) 0).mapError (·.2) =
            .ok value := read
        exact Node.build_wellFormed (Except.mapError_eq_ok.mp read)

end CodeSurvey.Yaml
