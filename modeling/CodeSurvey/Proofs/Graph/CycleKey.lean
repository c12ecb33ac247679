import CodeSurvey.Graph.Cycle

/-!
The texts by which cycles are told apart. Where no path holds an arrow, the text of a way gives back
its files: the first arrow in it ends the first path.
-/

set_option autoImplicit false

namespace CodeSurvey.CycleSearch

/-- A path in which the text between the paths of a way does not occur. -/
def ArrowFree (path : String) : Prop :=
  ¬ ['-', '>'] <:+: path.toList

theorem arrowFree_of_not_mem {path : String} (absent : '>' ∉ path.toList) : ArrowFree path := by
  rintro ⟨front, back, same⟩
  apply absent
  rw [← same]
  simp

theorem cycleKey_cons_cons (path next : String) (rest : List String) :
    (cycleKey (path :: next :: rest)).toList =
      path.toList ++ '-' :: '>' :: (cycleKey (next :: rest)).toList := by
  simp only [cycleKey, String.intercalate_cons_cons, String.toList_append, List.append_assoc]
  rfl

/-- An arrow that begins in a text goes on in it: behind the text comes a dash. -/
private theorem arrow_overlap {extra front back : List Char}
    (same : '-' :: '>' :: front = extra ++ '-' :: '>' :: back) :
    extra = [] ∨ ∃ more, extra = '-' :: '>' :: more := by
  match extra with
  | [] => exact .inl rfl
  | [dash] =>
      simp only [List.singleton_append, List.cons.injEq] at same
      exact absurd same.2.1 (by decide)
  | dash :: head :: more =>
      simp only [List.cons_append, List.cons.injEq] at same
      exact .inr ⟨more, by rw [← same.1, ← same.2.1]⟩

private theorem first_arrow_le {left right front back : List Char}
    (free : ¬ ['-', '>'] <:+: right) (extra : List Char) (longer : right = left ++ extra)
    (same : '-' :: '>' :: front = extra ++ '-' :: '>' :: back) : left = right ∧ front = back := by
  rcases arrow_overlap same with rfl | ⟨more, rfl⟩
  · rw [List.append_nil] at longer
    simp only [List.nil_append, List.cons.injEq, true_and] at same
    exact ⟨longer.symm, same⟩
  · exact absurd ⟨left, more, by simp [longer]⟩ free

theorem first_arrow {left right front back : List Char} (leftFree : ¬ ['-', '>'] <:+: left)
    (rightFree : ¬ ['-', '>'] <:+: right)
    (same : left ++ '-' :: '>' :: front = right ++ '-' :: '>' :: back) :
    left = right ∧ front = back := by
  rcases List.append_eq_append_iff.mp same with ⟨extra, longer, rest⟩ | ⟨extra, longer, rest⟩
  · exact first_arrow_le rightFree extra longer rest
  · obtain ⟨paths, texts⟩ := first_arrow_le leftFree extra longer rest
    exact ⟨paths.symm, texts.symm⟩

/-- Ways of paths without arrows are known by their texts. -/
theorem cycleKey_injective {first second : List String} (firstSome : first ≠ [])
    (secondSome : second ≠ []) (firstFree : ∀ path ∈ first, ArrowFree path)
    (secondFree : ∀ path ∈ second, ArrowFree path) (same : cycleKey first = cycleKey second) :
    first = second := by
  induction first generalizing second with
  | nil => exact absurd rfl firstSome
  | cons path rest ih =>
      obtain ⟨other, others, rfl⟩ := List.exists_cons_of_ne_nil secondSome
      have pathFree := firstFree path List.mem_cons_self
      have otherFree := secondFree other List.mem_cons_self
      have texts := congrArg String.toList same
      match rest, others with
      | [], [] =>
          simpa [cycleKey] using same
      | [], next :: others =>
          rw [cycleKey_cons_cons] at texts
          exact absurd ⟨other.toList, (cycleKey (next :: others)).toList, by
            simpa [cycleKey] using texts.symm⟩ pathFree
      | next :: rest, [] =>
          rw [cycleKey_cons_cons] at texts
          exact absurd ⟨path.toList, (cycleKey (next :: rest)).toList, by
            simpa [cycleKey] using texts⟩ otherFree
      | next :: rest, another :: others =>
          rw [cycleKey_cons_cons, cycleKey_cons_cons] at texts
          obtain ⟨paths, tails⟩ := first_arrow pathFree otherFree texts
          have onward := ih (List.cons_ne_nil _ _) (List.cons_ne_nil _ _)
            (fun path member => firstFree path (List.mem_cons_of_mem _ member))
            (fun path member => secondFree path (List.mem_cons_of_mem _ member))
            (String.toList_inj.mp tails)
          rw [String.toList_inj.mp paths, onward]

end CodeSurvey.CycleSearch
