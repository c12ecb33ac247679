import CodeSurvey.Proofs.Source.Decisions
import CodeSurvey.Proofs.Source.DeclaredNames
import CodeSurvey.Proofs.Text.Parts

/-!
Functions inside functions, where bodies are marked by indentation. A body reaches to the last line
before one that is indented less than its first line. The body of a function that begins inside another
one is indented still further, so it ends inside too, and has no more decision points.
-/

set_option autoImplicit false

namespace CodeSurvey

open Text

namespace Source

/-- How many lines there are up to the last one that is not blank, if only those count that come before
a line which is indented less than `base`. -/
def coverage (base : Nat) : List (List Char) → Nat
  | [] => 0
  | line :: rest =>
    if isBlankText line then if coverage base rest = 0 then 0 else coverage base rest + 1
    else if indentation line < base then 0
    else coverage base rest + 1

/-- Whether a line may stand in a body whose first line is indented by `base`. -/
def Belongs (base : Nat) (line : List Char) : Prop :=
  isBlankText line = true ∨ base ≤ indentation line

theorem reach_over_blank (cover offset last : Nat) :
    (if cover = 0 then last else offset + 1 + cover - 1) =
      if (if cover = 0 then 0 else cover + 1) = 0 then last
      else offset + (if cover = 0 then 0 else cover + 1) - 1 := by
  by_cases none : cover = 0
  · simp [none]
  · simp only [none, Nat.add_one_ne_zero, ↓reduceIte]
    omega

theorem reach_over_line (cover offset last : Nat) :
    (if cover = 0 then offset else offset + 1 + cover - 1) =
      if cover + 1 = 0 then last else offset + (cover + 1) - 1 := by
  by_cases none : cover = 0
  · simp [none]
  · simp only [none, Nat.add_one_ne_zero, ↓reduceIte]
    omega

theorem indentReach_some (own base : Nat) (lines : List (List Char)) (offset last : Nat) :
    indentReach own lines (some base) offset last =
      if coverage base lines = 0 then last else offset + coverage base lines - 1 := by
  induction lines generalizing offset last with
  | nil => rfl
  | cons line rest ih =>
      rw [indentReach, coverage]
      by_cases blank : isBlankText line = true
      · rw [if_pos blank, if_pos blank, ih]
        exact reach_over_blank _ _ _
      · rw [if_neg blank, if_neg blank]
        dsimp only
        split
        · rfl
        · rw [ih]
          exact reach_over_line _ _ _

/-- A body whose first line is not known yet reaches as far as one that is indented by some `base`, and
this is deeper than its declaration. -/
theorem indentReach_none (own : Nat) (lines : List (List Char)) (offset : Nat) :
    ∃ base, own < base ∧ indentReach own lines none offset 0 =
      if coverage base lines = 0 then 0 else offset + coverage base lines - 1 := by
  induction lines generalizing offset with
  | nil => exact ⟨own + 1, Nat.lt_succ_self own, rfl⟩
  | cons line rest ih =>
      rw [indentReach]
      by_cases blank : isBlankText line = true
      · obtain ⟨base, deeper, reach⟩ := ih (offset + 1)
        refine ⟨base, deeper, ?_⟩
        rw [if_pos blank, coverage, if_pos blank, reach]
        exact reach_over_blank _ _ _
      · rw [if_neg blank]
        dsimp only
        split
        · next shallow =>
            refine ⟨own + 1, Nat.lt_succ_self own, ?_⟩
            rw [coverage, if_neg blank, if_pos (Nat.lt_succ_of_le shallow)]
            rfl
        · next deep =>
            refine ⟨indentation line, Nat.lt_of_not_le deep, ?_⟩
            rw [coverage, if_neg blank, if_neg (Nat.lt_irrefl _), indentReach_some]
            exact reach_over_line _ _ _

theorem indentLength_eq_coverage (first : List Char) (rest : List (List Char)) :
    ∃ base, indentation first < base ∧ indentLength (first :: rest) = coverage base rest + 1 := by
  obtain ⟨base, deeper, reach⟩ := indentReach_none (indentation first) rest 1
  refine ⟨base, deeper, ?_⟩
  rw [indentLength, reach]
  split <;> omega

/-- A line is covered if it comes no later than one that is not blank and up to which all lines
belong. -/
def Covers (base : Nat) (lines : List (List Char)) (n : Nat) : Prop :=
  ∃ m line, n ≤ m ∧ lines[m]? = some line ∧ isBlankText line = false ∧
    ∀ other ∈ lines.take (m + 1), Belongs base other

theorem covers_cons {base n : Nat} {line : List Char} {rest : List (List Char)} :
    Covers base (line :: rest) n ↔
      Belongs base line ∧ (n = 0 ∧ isBlankText line = false ∨ Covers base rest (n - 1)) := by
  constructor
  · rintro ⟨m, last, before, here, filled, all⟩
    rw [List.take_succ_cons, List.forall_mem_cons] at all
    refine ⟨all.1, ?_⟩
    cases m with
    | zero =>
        cases here
        exact .inl ⟨Nat.le_zero.mp before, filled⟩
    | succ m => exact .inr ⟨m, last, Nat.sub_le_of_le_add before, here, filled, all.2⟩
  · rintro ⟨belongs, ⟨rfl, filled⟩ | ⟨m, last, before, here, filled, all⟩⟩
    · exact ⟨0, line, Nat.le_refl 0, rfl, filled, List.forall_mem_cons.mpr ⟨belongs, nofun⟩⟩
    · refine ⟨m + 1, last, Nat.le_add_of_sub_le before, here, filled, ?_⟩
      rw [List.take_succ_cons, List.forall_mem_cons]
      exact ⟨belongs, all⟩

theorem lt_coverage_iff {base n : Nat} {lines : List (List Char)} :
    n < coverage base lines ↔ Covers base lines n := by
  induction lines generalizing n with
  | nil =>
      constructor
      · nofun
      · rintro ⟨m, line, -, ⟨⟩, -⟩
  | cons line rest ih =>
      rw [covers_cons, ← ih, coverage]
      by_cases blank : isBlankText line = true
      · have belongs : Belongs base line := .inl blank
        simp only [blank, belongs, ↓reduceIte, true_and, Bool.true_eq_false, and_false, false_or]
        split <;> omega
      · have filled : isBlankText line = false := Bool.eq_false_iff.mpr blank
        have belongs : Belongs base line ↔ ¬ indentation line < base := by
          simp [Belongs, filled]
        simp only [filled, belongs, Bool.false_eq_true, ↓reduceIte, and_true]
        split <;> omega

theorem Covers.belongs {base n : Nat} {lines : List (List Char)} (covers : Covers base lines n) :
    ∀ line ∈ lines.take (n + 1), Belongs base line := by
  obtain ⟨m, -, before, -, -, all⟩ := covers
  intro line member
  exact all line (List.take_subset_take_left lines (by omega) member)

/-- Lines that are covered by a deeper body go on with what belongs before them. -/
theorem Covers.append {outer base n k : Nat} {lines : List (List Char)}
    (front : ∀ line ∈ lines.take n, Belongs outer line) (deeper : outer ≤ base)
    (covers : Covers base (lines.drop n) k) : Covers outer lines (n + k) := by
  obtain ⟨m, last, before, here, filled, all⟩ := covers
  refine ⟨n + m, last, by omega, ?_, filled, ?_⟩
  · rw [← List.getElem?_drop]
    exact here
  · intro line member
    rw [Nat.add_assoc, List.take_add, List.mem_append] at member
    rcases member with early | late
    · exact front line early
    · rcases all line late with blank | indented
      · exact .inl blank
      · exact .inr (Nat.le_trans deeper indented)

/-- Where a line that is not blank stands inside a body, the body that begins on it ends inside too.
There are `n` lines between the two declarations. -/
theorem indentLength_nested {first inner : List Char} {rest below : List (List Char)} {n : Nat}
    (place : rest.drop n = inner :: below) (filled : isBlankText inner = false)
    (inside : n + 1 < indentLength (first :: rest)) :
    n + 1 + indentLength (inner :: below) ≤ indentLength (first :: rest) := by
  obtain ⟨outer, -, whole⟩ := indentLength_eq_coverage first rest
  obtain ⟨base, deeper, part⟩ := indentLength_eq_coverage inner below
  have covered : n < coverage outer rest := by omega
  have front := (lt_coverage_iff.mp covered).belongs
  have behind : rest.drop (n + 1) = below := by
    rw [← List.drop_drop, place]
    rfl
  have member : inner ∈ rest.take (n + 1) := by
    have here : rest[n]? = some inner := by
      rw [← List.head?_drop, place]
      rfl
    exact List.mem_of_getElem? ((List.getElem?_take_of_lt (Nat.lt_succ_self n)).trans here)
  have step : outer ≤ indentation inner := by
    rcases front inner member with blank | indented
    · rw [filled] at blank
      cases blank
    · exact indented
  suffices n + coverage base below < coverage outer rest by omega
  cases size : coverage base below with
  | zero => exact covered
  | succ k =>
      have last : Covers base (rest.drop (n + 1)) k := by
        rw [behind]
        exact lt_coverage_iff.mp (by omega)
      have reached := lt_coverage_iff.mpr (last.append front (by omega))
      omega

/-! A declared function and its place among the lines. -/

/-- A function begins on a line with a name for it, and has the body that begins there. -/
theorem exists_line_of_mem_functionsFrom {family : Family} {all rest : List (List Char)} {start : Nat}
    {f : Function} (member : f ∈ functionsFrom family all rest start) :
    ∃ index line below, rest.drop index = line :: below ∧
      f.name.toList ∈ ruleNames family.functionRules line ∧ f.line = start + index + 1 ∧
      f.endLine = (body family.bodyStyle all (start + index)).2 + 1 ∧
      f.body = String.ofList (body family.bodyStyle all (start + index)).1 := by
  induction rest generalizing start with
  | nil => cases member
  | cons line rest ih =>
      rw [functionsFrom, List.mem_append] at member
      rcases member with here | later
      · split at here
        · cases here
        · obtain ⟨name, named, rfl⟩ := List.mem_map.mp here
          refine ⟨0, line, rest, rfl, ?_, rfl, rfl, rfl⟩
          rw [String.toList_ofList]
          exact List.mem_eraseDups.mp named
      · obtain ⟨index, other, below, place, named, begins, ends, text⟩ := ih later
        rw [Nat.add_assoc start 1, Nat.add_comm 1] at begins ends text
        exact ⟨index + 1, other, below, place, named, begins, ends, text⟩

/-- A line that declares a function by indentation is not blank. -/
theorem isBlankText_of_definition {line name : List Char}
    (member : name ∈ ruleNames Family.python.functionRules line) : isBlankText line = false := by
  obtain ⟨rule, listed, gives⟩ := List.mem_filterMap.mp member
  cases List.mem_singleton.mp listed
  obtain ⟨found, matched, rfl, filled⟩ := LineRule.exists_of_name? gives
  have parts : Declaration.definition = Pattern.all ([.textStart, .blanks,
      .optional (.seq (.text "async") .blanks1), .text "def", .blanks1] ++
      .part 1 (.many1 isWord) :: [.blanks, .char '(']) := rfl
  obtain ⟨front, start, near, inner, far, stop, moves, -, taken, names, -⟩ :=
    Pattern.exists_of_search matched parts rfl
  obtain ⟨letters, along, fit, -⟩ := Cursor.mem_spanEnds taken
  rw [← along.upTo_eq, names.upTo_eq] at fit
  obtain ⟨x, letter⟩ := List.exists_mem_of_ne_nil _ filled
  have word : isWord x = true := fit x letter
  have onLine : x ∈ line := by
    have whole : line = front ++ near.rest := moves.rest
    rw [whole, names.rest]
    exact List.mem_append_right _ (List.mem_append_left _ letter)
  cases blank : isBlankText line with
  | false => rfl
  | true =>
      rw [isWord_of_isBlank (List.all_eq_true.mp blank x onLine)] at word
      cases word

theorem exists_place_of_mem_functions {content : List Char} {f : Function}
    (member : f ∈ functions (some .python) content) :
    ∃ index line below, (lines content).drop index = line :: below ∧ isBlankText line = false ∧
      f.line = index + 1 ∧ f.endLine = index + indentLength (line :: below) ∧
      f.body.toList = unlines ((line :: below).take (indentLength (line :: below))) := by
  obtain ⟨index, line, below, place, named, begins, ends, text⟩ :=
    exists_line_of_mem_functionsFrom member
  rw [Nat.zero_add] at begins ends text
  refine ⟨index, line, below, place, isBlankText_of_definition named, begins, ?_, ?_⟩
  · rw [ends, body, place]
    rfl
  · rw [text, String.toList_ofList, body, place]
    rfl

/-- Lines between others make a part of the text that no word crosses. -/
theorem exists_unlines_part {front inner : List (List Char)} (before : front ≠ [])
    (filled : inner ≠ []) (back : List (List Char)) :
    ∃ behind, behind.head?.any isWord = false ∧
      unlines (front ++ (inner ++ back)) = unlines front ++ ['\n'] ++ unlines inner ++ behind := by
  have split : unlines (front ++ (inner ++ back)) = unlines front ++ '\n' :: unlines (inner ++ back) :=
    joinWith_append before (by simp [filled])
  cases back with
  | nil =>
      refine ⟨[], rfl, ?_⟩
      rw [split]
      simp
  | cons next more =>
      have again : unlines (inner ++ next :: more) = unlines inner ++ '\n' :: unlines (next :: more) :=
        joinWith_append filled (List.cons_ne_nil next more)
      refine ⟨'\n' :: unlines (next :: more), isWord_newline, ?_⟩
      rw [split, again]
      simp

theorem complexity_le_of_lines {front inner : List (List Char)} (before : front ≠ [])
    (filled : inner ≠ []) (back : List (List Char)) :
    complexity (unlines inner) ≤ complexity (unlines (front ++ (inner ++ back))) := by
  obtain ⟨behind, apart, whole⟩ := exists_unlines_part before filled back
  rw [whole]
  apply complexity_le_of_part _ _ _ apart
  rw [List.getLast?_concat]
  exact isWord_newline

/-- The lines of a function inside another one are lines of that one, behind its first line. -/
theorem complexity_le_of_nested {first inner : List Char} {rest below : List (List Char)} {n : Nat}
    (place : rest.drop n = inner :: below) {size whole : Nat} (positive : 0 < size)
    (inside : n + 1 + size ≤ whole) :
    complexity (unlines ((inner :: below).take size)) ≤
      complexity (unlines ((first :: rest).take whole)) := by
  obtain ⟨more, rfl⟩ := Nat.exists_eq_add_of_le inside
  rw [Nat.add_assoc (n + 1), List.take_add, List.drop_succ_cons, place, List.take_add (i := size)]
  refine complexity_le_of_lines ?_ ?_ _
  · rw [List.take_succ_cons]
    exact List.cons_ne_nil _ _
  · obtain ⟨size, rfl⟩ := Nat.exists_eq_add_of_lt positive
    exact List.cons_ne_nil _ _

/-- Of two functions that begin on different lines the second one begins behind the first or ends
inside it, and inside it has no higher complexity. -/
theorem functions_apart_or_nested (content : List Char) {f g : Function}
    (outer : f ∈ functions (some .python) content) (inner : g ∈ functions (some .python) content)
    (later : f.line < g.line) :
    (f.endLine < g.line ∨ g.endLine ≤ f.endLine) ∧
      (g.endLine ≤ f.endLine → complexity g.body.toList ≤ complexity f.body.toList) := by
  obtain ⟨index, first, rest, place, -, begins, ends, text⟩ := exists_place_of_mem_functions outer
  obtain ⟨start, line, below, there, filled, opens, closes, inside⟩ :=
    exists_place_of_mem_functions inner
  obtain ⟨n, rfl⟩ : ∃ n, start = index + (n + 1) := ⟨start - index - 1, by omega⟩
  rw [← List.drop_drop, place, List.drop_succ_cons] at there
  have positive : 0 < indentLength (line :: below) := Nat.succ_pos _
  have nested : g.line ≤ f.endLine →
      n + 1 + indentLength (line :: below) ≤ indentLength (first :: rest) :=
    fun within => indentLength_nested there filled (by omega)
  refine ⟨?_, fun within => ?_⟩
  · by_cases within : g.line ≤ f.endLine
    · have fits := nested within
      omega
    · omega
  · rw [inside, text]
    exact complexity_le_of_nested there positive (nested (by omega))

def nestedCode : List Char :=
  "def f(a):\n    def g(b):\n        if b:\n            return 1\n\n    return g(a)\n".toList

theorem functions_apart_or_nested_of_inner :
    ∃ f ∈ functions (some .python) nestedCode, ∃ g ∈ functions (some .python) nestedCode,
      f.line < g.line ∧ g.endLine ≤ f.endLine ∧
        complexity g.body.toList ≤ complexity f.body.toList := by
  have pair : ((functions (some .python) nestedCode).any fun f =>
      (functions (some .python) nestedCode).any fun g =>
        decide (f.line < g.line) && decide (g.line ≤ f.endLine)) = true := by
    decide +kernel
  obtain ⟨f, outer, some⟩ := List.any_eq_true.mp pair
  obtain ⟨g, inner, both⟩ := List.any_eq_true.mp some
  rw [Bool.and_eq_true, decide_eq_true_eq, decide_eq_true_eq] at both
  obtain ⟨apart | within, simpler⟩ := functions_apart_or_nested nestedCode outer inner both.1
  · exact absurd both.2 (Nat.not_le.mpr apart)
  · exact ⟨f, outer, g, inner, both.1, within, simpler within⟩

end Source

end CodeSurvey
