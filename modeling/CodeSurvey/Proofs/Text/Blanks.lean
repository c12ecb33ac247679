import CodeSurvey.Text.Blank

set_option autoImplicit false

namespace CodeSurvey.Text

/-- What the character before some text does to the text, once its runs of blanks are collapsed; the flag
tells whether it begins with a blank. -/
def collapseStep (c : Char) (found : List Char × Bool) : List Char × Bool :=
  if isBlank c then
    if found.2 then found else (' ' :: found.1, true)
  else (c :: found.1, false)

theorem collapseBlanks_eq (text : List Char) :
    collapseBlanks text = (text.foldr collapseStep ([], false)).1 :=
  rfl

theorem collapseStep_of_blank {c : Char} (blank : isBlank c = true) (found : List Char × Bool) :
    collapseStep c found = if found.2 then found else (' ' :: found.1, true) := by
  rw [collapseStep, if_pos blank]

theorem collapseStep_of_blanks {c d : Char} (first : isBlank c = true) (second : isBlank d = true)
    (found : List Char × Bool) : collapseStep c (collapseStep d found) = collapseStep d found := by
  rw [collapseStep_of_blank first, collapseStep_of_blank second]
  split
  · rfl
  · rfl

theorem collapseStep_same {c d : Char} (first : isBlank c = true) (second : isBlank d = true)
    (found : List Char × Bool) : collapseStep c found = collapseStep d found := by
  rw [collapseStep_of_blank first, collapseStep_of_blank second]

/-- What stands behind a text stays behind it. -/
theorem foldr_collapseStep_append (text front back : List Char) (begun : Bool) :
    text.foldr collapseStep (front ++ back, begun) =
      ((text.foldr collapseStep (front, begun)).1 ++ back,
        (text.foldr collapseStep (front, begun)).2) := by
  induction text with
  | nil => rfl
  | cons c text ih =>
      rw [List.foldr_cons, List.foldr_cons, ih]
      unfold collapseStep
      split
      · split <;> rfl
      · rfl

theorem trim_space_cons (text : List Char) : trim (' ' :: text) = trim text := by
  rw [trim, trimStart, List.dropWhile_cons_of_pos (by decide)]
  rfl

theorem trim_append_space (text : List Char) : trim (text ++ [' ']) = trim text := by
  unfold trim trimStart trimEnd dropEndWhile
  rw [List.dropWhile_append]
  split
  · rename_i blank
    rw [List.isEmpty_iff.mp blank]
    rfl
  · rw [List.reverse_append, List.reverse_singleton, List.singleton_append,
      List.dropWhile_cons_of_pos (by decide)]

/-- At the beginning of a text. -/
theorem trim_collapseBlanks_cons {c : Char} (blank : isBlank c = true) (text : List Char) :
    trim (collapseBlanks (c :: text)) = trim (collapseBlanks text) := by
  rw [collapseBlanks_eq, List.foldr_cons, collapseStep_of_blank blank]
  split
  · rfl
  · exact trim_space_cons _

/-- At the end of a text. -/
theorem trim_collapseBlanks_concat {c : Char} (blank : isBlank c = true) (text : List Char) :
    trim (collapseBlanks (text ++ [c])) = trim (collapseBlanks text) := by
  have space : collapseStep c ([], false) = ([' '], true) := by
    rw [collapseStep_of_blank blank]
    rfl
  rw [collapseBlanks_eq, List.foldr_append, List.foldr_cons, List.foldr_nil, space]
  rcases List.eq_nil_or_concat text with rfl | ⟨front, d, rfl⟩
  · rfl
  · simp only [List.concat_eq_append, collapseBlanks_eq, List.foldr_append, List.foldr_cons,
      List.foldr_nil]
    by_cases double : isBlank d = true
    · rw [← space, collapseStep_of_blanks double blank, collapseStep_same blank double]
    · have apart : collapseStep d ([' '], true) = ([d] ++ [' '], false) := by
        rw [collapseStep, if_neg double]
        rfl
      have alone : collapseStep d ([], false) = ([d], false) := by
        rw [collapseStep, if_neg double]
      rw [apart, alone, foldr_collapseStep_append]
      exact trim_append_space _

/-- A blank that stands at an end of a text or beside another blank does not show. -/
theorem trim_collapseBlanks_insert {front back : List Char} {c : Char} (blank : isBlank c = true)
    (beside : front.getLast?.all isBlank = true ∨ back.head?.all isBlank = true) :
    trim (collapseBlanks (front ++ c :: back)) = trim (collapseBlanks (front ++ back)) := by
  rcases beside with before | behind
  · rcases List.eq_nil_or_concat front with rfl | ⟨front, d, rfl⟩
    · exact trim_collapseBlanks_cons blank back
    · have double : isBlank d = true := by simpa using before
      simp only [List.concat_eq_append, List.append_assoc, List.singleton_append, collapseBlanks_eq,
        List.foldr_append, List.foldr_cons]
      rw [collapseStep_of_blanks double blank, collapseStep_same blank double]
  · cases back with
    | nil =>
        rw [List.append_nil]
        exact trim_collapseBlanks_concat blank front
    | cons d back =>
        have double : isBlank d = true := by simpa using behind
        simp only [collapseBlanks_eq, List.foldr_append, List.foldr_cons]
        rw [collapseStep_of_blanks blank double]

end CodeSurvey.Text
