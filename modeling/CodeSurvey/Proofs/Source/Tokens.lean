import CodeSurvey.Proofs.Pattern.Inversion
import CodeSurvey.Source.Token

set_option autoImplicit false

namespace CodeSurvey.Source

open Name

/-- The names of a text, each as long as possible. -/
def names : List Char → List (List Char)
  | [] => []
  | x :: rest =>
    if isStart x then (x :: rest.takeWhile isRest) :: names (rest.dropWhile isRest) else names rest
termination_by text => text.length
decreasing_by
  · have shorter := (List.dropWhile_suffix isRest (l := rest)).length_le
    simp only [List.length_cons]
    omega
  · simp

theorem matchAt_name (x : Char) (rest : List Char) (pos : Nat) (last : Option Char) :
    (Pattern.part 1 Name.pattern).matchAt ⟨pos, last, x :: rest, []⟩ =
      if isStart x then
        some ⟨pos, pos + 1 + (rest.takeWhile isRest).length, [(1, x :: rest.takeWhile isRest)]⟩
      else none := by
  rw [Pattern.matchAt, Pattern.run_eq_findSome]
  by_cases starts : isStart x = true
  · have first : ∀ places : List Cursor, places.findSome? some = places.head? := by
      intro places
      cases places <;> rfl
    have taken : rest.take (rest.takeWhile isRest).length = rest.takeWhile isRest :=
      (List.prefix_iff_eq_take.mp (List.takeWhile_prefix isRest)).symm
    have size : pos + 1 + (rest.takeWhile isRest).length - pos =
        (rest.takeWhile isRest).length + 1 := by omega
    simp [first, Pattern.ends, Name.pattern, Pattern.many, starts, Cursor.spanEnds_head?,
      Cursor.upTo, size, taken]
  · simp [Pattern.ends, Name.pattern, starts]

theorem scanFrom_skip (p : Pattern) (text : List Char) (pos : Nat) (last : Option Char)
    (skip : Nat) :
    ∃ other, p.scanFrom text pos last skip = p.scanFrom (text.drop skip) (pos + skip) other 0 := by
  induction skip generalizing text pos last with
  | zero => exact ⟨last, rfl⟩
  | succ skip ih =>
      cases text with
      | nil => exact ⟨none, rfl⟩
      | cons x rest =>
          obtain ⟨other, same⟩ := ih rest (pos + 1) (some x)
          refine ⟨other, ?_⟩
          rw [Pattern.scanFrom, same, List.drop_succ_cons, Nat.add_assoc, Nat.add_comm 1]

theorem scanFrom_names (text : List Char) (pos : Nat) (last : Option Char) :
    ((Pattern.part 1 Name.pattern).scanFrom text pos last 0).map (·.part 1) = names text := by
  fun_induction names text generalizing pos last with
  | case1 => rfl
  | case2 x rest starts ih =>
      have skip : pos + 1 + (rest.takeWhile isRest).length - pos - 1 =
          (rest.takeWhile isRest).length := by omega
      obtain ⟨other, later⟩ := scanFrom_skip (Pattern.part 1 Name.pattern) rest (pos + 1) (some x)
        (rest.takeWhile isRest).length
      rw [Pattern.scanFrom, matchAt_name, if_pos starts]
      dsimp only
      rw [skip, later, Cursor.drop_length_takeWhile, List.map_cons, ih]
      rfl
  | case3 x rest other ih =>
      rw [Pattern.scanFrom, matchAt_name, if_neg other]
      exact ih (pos + 1) (some x)

theorem lineTokens_eq (line : List Char) :
    lineTokens line = ((names line).map bareName).filter (!·.isEmpty) := by
  rw [← scanFrom_names line 0 none, List.map_map]
  rfl

theorem count_lineTokens (line : List Char) {name : List Char} (visible : bareName name ≠ []) :
    (lineTokens line).count (bareName name) =
      (names line).countP fun token => bareName token == bareName name := by
  rw [lineTokens_eq, List.count_filter (by simpa using visible), List.count, List.countP_map]
  rfl

end CodeSurvey.Source
