import CodeSurvey.Proofs.Pattern.Disjoint
import CodeSurvey.Source.Complexity

/-!
Decision points in a part of a code. A word takes its own characters; an `else if` ends at the first
`f` and a conditional at the first colon behind its beginning. So a decision point that begins later
never ends sooner, and a part of a code has no more of them than the code.
-/

set_option autoImplicit false

namespace CodeSurvey

open Text

namespace Pattern

variable {p : Pattern} {c later : Cursor}

/-- A pattern that takes one word only is orderly. -/
theorem Orderly.of_word {word : List Char} (filled : word ≠ [])
    (takes : ∀ c later : Cursor, later ∈ p.ends c → c.rest = word ++ later.rest) : p.Orderly := by
  have size : ∀ c later : Cursor, later ∈ p.ends c →
      c.rest.length = word.length + later.rest.length := by
    intro c later member
    rw [takes c later member, List.length_append]
  have long := List.length_pos_iff.mpr filled
  refine ⟨fun {c stop} member => ?_, fun {c start stop far skipped} moves near after => ?_⟩
  · have whole := size c stop member
    omega
  · have first := size c stop near
    have second := size start far after
    have between := congrArg List.length moves.rest
    rw [List.length_append] at between
    omega

/-- Behind the first of a kind of marks stands at least as much as behind any other. -/
theorem length_le_of_first_mark {mark : Char} {front behind rest : List Char} (other : List Char)
    (absent : mark ∉ front) (same : front ++ mark :: behind = other ++ mark :: rest) :
    rest.length ≤ behind.length := by
  induction front generalizing other with
  | nil =>
      have sizes := congrArg List.length same
      simp only [List.nil_append, List.length_append, List.length_cons] at sizes
      omega
  | cons x front ih =>
      obtain ⟨differs, later⟩ := not_or.mp (fun found => absent (List.mem_cons.mpr found))
      cases other with
      | nil => exact absurd (List.cons.inj same).1.symm differs
      | cons y other => exact ih other later (List.cons.inj same).2

/-- A pattern that takes all up to the first of a kind of marks is orderly. -/
theorem Orderly.of_mark (mark : Char) (takes : ∀ c later : Cursor, later ∈ p.ends c →
    ∃ front, mark ∉ front ∧ c.rest = front ++ mark :: later.rest) : p.Orderly := by
  refine ⟨fun {c stop} member => ?_, fun {c start stop far skipped} moves near after => ?_⟩
  · obtain ⟨front, -, whole⟩ := takes c stop member
    rw [whole, List.length_append, List.length_cons]
    omega
  · obtain ⟨front, absent, whole⟩ := takes c stop near
    obtain ⟨other, -, rest⟩ := takes start far after
    apply length_le_of_first_mark (skipped ++ other) absent
    rw [← whole, moves.rest, rest, List.append_assoc]

end Pattern

namespace Source

open Pattern

theorem wholeWord_orderly (word : String) (filled : word.toList ≠ []) : (wholeWord word).Orderly := by
  refine .of_word filled fun c later member => ?_
  obtain ⟨first, opening, member⟩ := List.mem_flatMap.mp member
  obtain ⟨second, letters, member⟩ := List.mem_flatMap.mp member
  obtain ⟨third, closing, member⟩ := List.mem_flatMap.mp member
  rw [List.mem_singleton.mp member, eq_of_mem_ends_edge closing, ← eq_of_mem_ends_edge opening]
  exact rest_of_mem_ends_text letters

/-- An `else if` ends at the first `f`. -/
theorem elseIf_orderly : Orderly (.all [.edge, .text "else", blanks1, .text "if", .edge]) := by
  refine .of_mark 'f' fun c later member => ?_
  obtain ⟨first, opening, member⟩ := List.mem_flatMap.mp member
  obtain ⟨second, letters, member⟩ := List.mem_flatMap.mp member
  obtain ⟨third, gap, member⟩ := List.mem_flatMap.mp member
  obtain ⟨fourth, more, member⟩ := List.mem_flatMap.mp member
  obtain ⟨fifth, closing, member⟩ := List.mem_flatMap.mp member
  obtain ⟨blank, moves, fit, -⟩ := Cursor.mem_spanEnds gap
  have whole : c.rest = "else".toList ++ (blank ++ ("if".toList ++ later.rest)) := by
    rw [List.mem_singleton.mp member, eq_of_mem_ends_edge closing, ← rest_of_mem_ends_text more,
      ← moves.rest, ← rest_of_mem_ends_text letters, eq_of_mem_ends_edge opening]
  have other : 'f' ∉ blank := fun inside => absurd (fit 'f' inside) (by decide)
  refine ⟨"else".toList ++ (blank ++ ['i']), ?_, ?_⟩
  · simp [other]
  · rw [whole]
    simp

/-- A conditional ends at the first colon. -/
theorem conditional_orderly : conditional.Orderly := by
  refine .of_mark ':' fun c later member => ?_
  obtain ⟨first, mark, member⟩ := List.mem_flatMap.mp member
  obtain ⟨second, gap, member⟩ := List.mem_flatMap.mp member
  obtain ⟨third, begins, member⟩ := List.mem_flatMap.mp member
  obtain ⟨fourth, branch, member⟩ := List.mem_flatMap.mp member
  obtain ⟨fifth, colon, member⟩ := List.mem_flatMap.mp member
  obtain ⟨blank, across, fit, -⟩ := Cursor.mem_spanEnds gap
  obtain ⟨x, opens, follows⟩ := exists_of_mem_ends_one begins
  obtain ⟨more, along, inside, -⟩ := Cursor.mem_spanEnds branch
  have whole : c.rest = '?' :: (blank ++ x :: (more ++ ':' :: later.rest)) := by
    rw [List.mem_singleton.mp member, ← rest_of_mem_ends_char colon, ← along.rest, ← follows,
      ← across.rest, ← rest_of_mem_ends_char mark]
  have inBlank : ':' ∉ blank := fun inside => absurd (fit ':' inside) (by decide)
  have inMore : ':' ∉ more := fun found => absurd (inside ':' found) (by decide)
  have inBranch : ':' ≠ x := by
    rintro rfl
    exact absurd opens (by decide)
  refine ⟨'?' :: (blank ++ x :: more), ?_, ?_⟩
  · simp [inBlank, inMore, inBranch]
  · rw [whole]
    simp

theorem decisions_orderly : ∀ decision ∈ decisions, decision.Orderly ∧ decision.isLocal = true := by
  have text_orderly : ∀ word : String, word.toList ≠ [] → (Pattern.text word).Orderly :=
    fun word filled => .of_word filled fun _ _ => rest_of_mem_ends_text
  simp only [decisions, List.forall_mem_cons]
  exact ⟨⟨wholeWord_orderly _ (by decide), rfl⟩, ⟨elseIf_orderly, rfl⟩,
    ⟨wholeWord_orderly _ (by decide), rfl⟩, ⟨wholeWord_orderly _ (by decide), rfl⟩,
    ⟨wholeWord_orderly _ (by decide), rfl⟩, ⟨wholeWord_orderly _ (by decide), rfl⟩,
    ⟨wholeWord_orderly _ (by decide), rfl⟩, ⟨text_orderly _ (by decide), rfl⟩,
    ⟨text_orderly _ (by decide), rfl⟩, ⟨conditional_orderly, rfl⟩, nofun⟩

theorem foldl_add_le {α : Type} {few many : α → Nat} {items : List α}
    (less : ∀ item ∈ items, few item ≤ many item) {start more : Nat} (begins : start ≤ more) :
    items.foldl (fun sum item => sum + few item) start ≤
      items.foldl (fun sum item => sum + many item) more := by
  induction items generalizing start more with
  | nil => exact begins
  | cons item rest ih =>
      have here := less item List.mem_cons_self
      exact ih (fun other listed => less other (List.mem_cons_of_mem item listed))
        (Nat.add_le_add begins here)

/-- A code is at least as complex as a part of it that is not cut out of a word. -/
theorem complexity_le_of_part (front code : List Char) {behind : List Char}
    (before : front.getLast?.any isWord = false) (apart : behind.head?.any isWord = false) :
    complexity code ≤ complexity (front ++ code ++ behind) := by
  refine foldl_add_le (fun decision listed => ?_) (Nat.le_refl 1)
  obtain ⟨orderly, plain⟩ := decisions_orderly decision listed
  exact orderly.occurrences_le plain front code before apart

end Source

end CodeSurvey
