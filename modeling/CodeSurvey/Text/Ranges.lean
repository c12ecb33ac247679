set_option autoImplicit false

namespace CodeSurvey.Text

/-- Closed ranges of code points in increasing order. -/
abbrev Ranges := List (Nat × Nat)

/-- Whether a character lies in one of the ranges. The search stops at the first range above it. -/
def Ranges.has : Ranges → Char → Bool
  | [], _ => false
  | (low, high) :: rest, c =>
    if c.toNat < low then false
    else if c.toNat ≤ high then true
    else Ranges.has rest c

/-- What the table says of a character is what one of its ranges says. -/
theorem Ranges.exists_of_has {table : Ranges} {c : Char} (found : table.has c = true) :
    ∃ range ∈ table, range.1 ≤ c.toNat ∧ c.toNat ≤ range.2 := by
  induction table with
  | nil => simp [Ranges.has] at found
  | cons range rest ih =>
    obtain ⟨low, high⟩ := range
    simp only [Ranges.has] at found
    split at found
    · simp at found
    · split at found
      · exact ⟨(low, high), List.mem_cons_self, by omega, by assumption⟩
      · obtain ⟨range, member, bounds⟩ := ih found
        exact ⟨range, List.mem_cons_of_mem _ member, bounds⟩

end CodeSurvey.Text
