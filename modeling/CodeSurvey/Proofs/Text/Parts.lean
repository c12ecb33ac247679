import CodeSurvey.Text.Lines

set_option autoImplicit false

namespace CodeSurvey.Text

variable {mark : Char}

theorem splitAt_cons_mark (mark : Char) (text : List Char) :
    splitAt mark (mark :: text) = [] :: splitAt mark text := by
  simp [splitAt]

theorem splitAt_cons_of_ne {c : Char} {text first : List Char} {more : List (List Char)}
    (other : c ≠ mark) (split : splitAt mark text = first :: more) :
    splitAt mark (c :: text) = (c :: first) :: more := by
  rw [splitAt] at split ⊢
  rw [List.foldr_cons, if_neg other, split]

theorem exists_splitAt (mark : Char) (text : List Char) :
    ∃ first more, splitAt mark text = first :: more := by
  induction text with
  | nil => exact ⟨[], [], rfl⟩
  | cons c rest ih =>
      by_cases same : c = mark
      · exact ⟨[], splitAt mark rest, by rw [same, splitAt_cons_mark]⟩
      · obtain ⟨first, more, split⟩ := ih
        exact ⟨c :: first, more, splitAt_cons_of_ne same split⟩

theorem splitAt_append_mark (mark : Char) (front back : List Char) :
    splitAt mark (front ++ mark :: back) = splitAt mark front ++ splitAt mark back := by
  induction front with
  | nil => exact splitAt_cons_mark mark back
  | cons c front ih =>
      by_cases same : c = mark
      · rw [same, List.cons_append, splitAt_cons_mark, splitAt_cons_mark, ih, List.cons_append]
      · obtain ⟨first, more, split⟩ := exists_splitAt mark front
        rw [split, List.cons_append] at ih
        rw [List.cons_append, splitAt_cons_of_ne same ih, splitAt_cons_of_ne same split,
          List.cons_append]

theorem splitAt_of_not_mem {text : List Char} (absent : mark ∉ text) :
    splitAt mark text = [text] := by
  induction text with
  | nil => rfl
  | cons c rest ih =>
      rw [List.mem_cons, not_or] at absent
      exact splitAt_cons_of_ne (Ne.symm absent.1) (ih absent.2)

theorem not_mem_of_mem_splitAt {text part : List Char} (member : part ∈ splitAt mark text) :
    mark ∉ part := by
  induction text generalizing part with
  | nil =>
      rw [List.mem_singleton.mp member]
      exact List.not_mem_nil
  | cons c rest ih =>
      by_cases same : c = mark
      · rw [same, splitAt_cons_mark] at member
        rcases List.mem_cons.mp member with rfl | later
        · exact List.not_mem_nil
        · exact ih later
      · obtain ⟨first, more, split⟩ := exists_splitAt mark rest
        rw [splitAt_cons_of_ne same split] at member
        rw [split] at ih
        rcases List.mem_cons.mp member with rfl | later
        · exact List.not_mem_cons_of_ne_of_not_mem (Ne.symm same) (ih List.mem_cons_self)
        · exact ih (List.mem_cons_of_mem _ later)

theorem joinWith_singleton {between : List Char} (part : List Char) :
    joinWith between [part] = part := by
  simp [joinWith]

theorem joinWith_cons {between : List Char} (first second : List Char) (rest : List (List Char)) :
    joinWith between (first :: second :: rest) =
      first ++ (between ++ joinWith between (second :: rest)) := by
  simp [joinWith, List.intercalate]

theorem joinWith_cons_cons (first second : List Char) (rest : List (List Char)) :
    joinWith [mark] (first :: second :: rest) =
      first ++ mark :: joinWith [mark] (second :: rest) :=
  joinWith_cons first second rest

theorem mem_joinWith {between : List Char} {parts : List (List Char)} {c : Char}
    (member : c ∈ joinWith between parts) : c ∈ between ∨ ∃ part ∈ parts, c ∈ part := by
  induction parts with
  | nil => cases member
  | cons first rest ih =>
      cases rest with
      | nil =>
          rw [joinWith_singleton] at member
          exact .inr ⟨first, List.mem_cons_self, member⟩
      | cons second rest =>
          rw [joinWith_cons, List.mem_append, List.mem_append] at member
          rcases member with here | mark | later
          · exact .inr ⟨first, List.mem_cons_self, here⟩
          · exact .inl mark
          · rcases ih later with mark | ⟨part, inside, member⟩
            · exact .inl mark
            · exact .inr ⟨part, List.mem_cons_of_mem first inside, member⟩

theorem joinWith_append {front back : List (List Char)} (before : front ≠ []) (behind : back ≠ []) :
    joinWith [mark] (front ++ back) = joinWith [mark] front ++ mark :: joinWith [mark] back := by
  obtain ⟨next, more, rfl⟩ := List.exists_cons_of_ne_nil behind
  induction front with
  | nil => exact absurd rfl before
  | cons first rest ih =>
      cases rest with
      | nil => rw [joinWith_singleton, List.singleton_append, joinWith_cons_cons]
      | cons second rest =>
          rw [List.cons_append, List.cons_append, joinWith_cons_cons, joinWith_cons_cons,
            List.append_assoc, List.cons_append, ← ih (List.cons_ne_nil _ _), List.cons_append]

theorem splitAt_joinWith {parts : List (List Char)} (some : parts ≠ [])
    (free : ∀ part ∈ parts, mark ∉ part) : splitAt mark (joinWith [mark] parts) = parts := by
  induction parts with
  | nil => exact absurd rfl some
  | cons first rest ih =>
      have whole := splitAt_of_not_mem (free first List.mem_cons_self)
      cases rest with
      | nil => rw [joinWith_singleton, whole]
      | cons second rest =>
          rw [joinWith_cons_cons, splitAt_append_mark, whole,
            ih (List.cons_ne_nil _ _) fun part member => free part (List.mem_cons_of_mem _ member),
            List.singleton_append]

theorem joinWith_splitAt (mark : Char) (text : List Char) :
    joinWith [mark] (splitAt mark text) = text := by
  induction text with
  | nil => rfl
  | cons c rest ih =>
      obtain ⟨first, more, split⟩ := exists_splitAt mark rest
      rw [split] at ih
      by_cases same : c = mark
      · rw [same, splitAt_cons_mark, split, joinWith_cons_cons, ih, List.nil_append]
      · rw [splitAt_cons_of_ne same split, ← ih]
        cases more with
        | nil => rw [joinWith_singleton, joinWith_singleton]
        | cons second more => rw [joinWith_cons_cons, joinWith_cons_cons, List.cons_append]

theorem splitLast?_of_not_mem {text : List Char} (absent : mark ∉ text) :
    splitLast? mark text = none := by
  simp [splitLast?, absent]

theorem splitLast?_append_mark (front : List Char) {back : List Char} (absent : mark ∉ back) :
    splitLast? mark (front ++ mark :: back) = some (front, back) := by
  have behind : ((front ++ mark :: back).reverse.takeWhile (· ≠ mark)).reverse = back := by
    rw [List.reverse_append, List.reverse_cons, List.append_assoc, List.takeWhile_append_of_pos]
    · simp
    · intro c member
      have other : c ≠ mark := fun same => absent (same ▸ List.mem_reverse.mp member)
      simpa using other
  have length : (front ++ mark :: back).length - back.length - 1 = front.length := by
    simp only [List.length_append, List.length_cons]
    omega
  simp only [splitLast?, behind, length, List.take_left]
  simp

theorem exists_last_mark {text : List Char} (member : mark ∈ text) :
    ∃ front back, text = front ++ mark :: back ∧ mark ∉ back := by
  obtain ⟨back, front, same, absent⟩ := List.eq_append_cons_of_mem (List.mem_reverse.mpr member)
  refine ⟨front.reverse, back.reverse, ?_, by simpa using absent⟩
  rw [← List.reverse_reverse text, same]
  simp

theorem last_mark_unique {front back stem extension : List Char}
    (absent : mark ∉ back) (last : mark ∉ extension)
    (same : front ++ mark :: back = stem ++ mark :: extension) :
    front = stem ∧ back = extension := by
  have parts := congrArg (splitLast? mark) same
  rw [splitLast?_append_mark front absent, splitLast?_append_mark stem last] at parts
  exact Prod.mk.inj (Option.some.inj parts)

end CodeSurvey.Text
