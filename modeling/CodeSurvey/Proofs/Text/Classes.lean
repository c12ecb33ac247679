import CodeSurvey.Language.Name

set_option autoImplicit false

namespace CodeSurvey

namespace Text

theorem ne_of_kind {kind : Char → Bool} {c mark : Char} (fits : kind c = true)
    (other : kind mark = false) : c ≠ mark := by
  rintro rfl
  rw [fits] at other
  cases other

/-- A text of characters of one kind does not hold a mark of another. -/
theorem not_mem_of_kind {kind : Char → Bool} {text : List Char} {mark : Char}
    (fits : ∀ c ∈ text, kind c = true) (other : kind mark = false) : mark ∉ text :=
  fun member => ne_of_kind (fits mark member) other rfl

theorem bne_of_not_mem {text : List Char} {mark : Char} (absent : mark ∉ text) :
    ∀ c ∈ text, (c != mark) = true :=
  fun _ member => bne_iff_ne.mpr fun same => absent (same ▸ member)

theorem isWord_of_ascii {c : Char} (ascii : 0x41 ≤ c.toNat ∧ c.toNat ≤ 0x5A ∨ c.toNat = 0x5F ∨
    0x61 ≤ c.toNat ∧ c.toNat ≤ 0x7A) : isWord c = true := by
  have table : wordRanges = (0x30, 0x39) :: (0x41, 0x5A) :: (0x5F, 0x5F) :: (0x61, 0x7A) ::
    wordRanges.drop 4 := rfl
  -- Only the first rows of the table are looked at.
  rw [isWord, table]
  generalize wordRanges.drop 4 = rows
  simp only [Ranges.has]
  grind

theorem isWord_dot : isWord '.' = false := by
  decide

theorem isWord_slash : isWord '/' = false := by
  decide

theorem isWord_newline : isWord '\n' = false := by
  decide

theorem blankRanges_apart_wordRanges :
    ∀ a ∈ blankRanges, ∀ b ∈ wordRanges, a.2 < b.1 ∨ b.2 < a.1 := by
  decide +kernel

theorem isWord_of_isBlank {c : Char} (blank : isBlank c = true) : isWord c = false := by
  cases word : isWord c with
  | false => rfl
  | true =>
      obtain ⟨a, inBlank, lowA, highA⟩ := Ranges.exists_of_has blank
      obtain ⟨b, inWord, lowB, highB⟩ := Ranges.exists_of_has word
      have apart := blankRanges_apart_wordRanges a inBlank b inWord
      omega

end Text

namespace Name

open Text

theorem isRest_of_isStart {c : Char} (starts : isStart c = true) : isRest c = true := by
  rw [isStart, Bool.or_eq_true, Bool.or_eq_true, beq_iff_eq, beq_iff_eq] at starts
  rw [isRest, Bool.or_eq_true, beq_iff_eq]
  rcases starts with (letter | rfl) | rfl
  · refine .inl (isWord_of_ascii ?_)
    have halves : c.isUpper = true ∨ c.isLower = true := Bool.or_eq_true_iff.mp letter
    rcases halves with upper | lower
    · obtain ⟨low, high⟩ : 'A'.val ≤ c.val ∧ c.val ≤ 'Z'.val := of_decide_eq_true upper
      exact .inl ⟨UInt32.le_iff_toNat_le.mp low, UInt32.le_iff_toNat_le.mp high⟩
    · obtain ⟨low, high⟩ := Bool.and_eq_true_iff.mp lower
      exact .inr (.inr ⟨UInt32.le_iff_toNat_le.mp (of_decide_eq_true low),
        UInt32.le_iff_toNat_le.mp (of_decide_eq_true high)⟩)
  · exact .inl (isWord_of_ascii (.inr (.inl rfl)))
  · exact .inr rfl

theorem isRest_of_isBlank {c : Char} (blank : isBlank c = true) : isRest c = false := by
  have other : c ≠ '$' := ne_of_kind blank (by decide)
  simp [isRest, isWord_of_isBlank blank, other]

end Name

end CodeSurvey
