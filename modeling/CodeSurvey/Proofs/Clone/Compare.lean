import CodeSurvey.Clone.Search

set_option autoImplicit false

namespace CodeSurvey.Clone

variable {σ τ : Type}

/-- The finding that a pair of windows would be. -/
def finding (m : Measure σ τ) (window : Int) (pair : Block × Block) : Duplicate σ :=
  ⟨pair.1, pair.2, similarity m pair.1.content pair.2.content, window⟩

def isSimilar (m : Measure σ τ) (threshold : τ) (pair : Block × Block) : Bool :=
  m.above (similarity m pair.1.content pair.2.content) threshold

def hits (m : Measure σ τ) (threshold : τ) (window : Int) (pairs : List (Block × Block)) :
    List (Duplicate σ) :=
  (pairs.filter (isSimilar m threshold)).map (finding m window)

theorem hits_cons (m : Measure σ τ) (threshold : τ) (window : Int) (pair : Block × Block)
    (rest : List (Block × Block)) :
    hits m threshold window (pair :: rest) =
      (if isSimilar m threshold pair then [finding m window pair] else []) ++
        hits m threshold window rest := by
  by_cases similar : isSimilar m threshold pair = true <;> simp [hits, similar]

def Result.score (m : Measure σ τ) (threshold : τ) (window : Int) (result : Result σ)
    (pair : Block × Block) : Result σ :=
  { result with
    findings := result.findings ++ hits m threshold window [pair]
    comparisons := result.comparisons + 1 }

/-- One round of the comparison: two limits are looked at before the pair is scored, and one behind a
finding. -/
theorem compare_cons (m : Measure σ τ) (threshold : τ) (window : Int) (budget : Budget)
    (clock : Clock) (pair : Block × Block) (rest : List (Block × Block)) (readings : Nat)
    (result : Result σ) :
    compare m threshold window budget clock (pair :: rest) readings result =
      if budget.maxComparisons ≤ result.comparisons then
        result.stop (.comparisons budget.maxComparisons)
      else if result.comparisons % 1000 = 0 ∧
          budget.time.exceededBy (clock readings - clock 0) then
        result.stop (.time budget.time)
      else if isSimilar m threshold pair ∧
          budget.maxDuplicates ≤ (result.score m threshold window pair).findings.length then
        (result.score m threshold window pair).stop (.duplicates budget.maxDuplicates)
      else
        compare m threshold window budget clock rest
          (if result.comparisons % 1000 = 0 then readings + 1 else readings)
          (result.score m threshold window pair) := by
  rw [compare]
  by_cases similar : m.above (similarity m pair.1.content pair.2.content) threshold = true
  · have hit : hits m threshold window [pair] = [finding m window pair] := by
      rw [hits_cons, isSimilar, if_pos similar]
      rfl
    simp only [isSimilar, similar, Result.score, hit, true_and, ↓reduceIte]
    rfl
  · have miss : hits m threshold window [pair] = [] := by
      rw [hits_cons, isSimilar, if_neg similar]
      rfl
    simp only [isSimilar, similar, Result.score, miss, false_and, ↓reduceIte, List.append_nil,
      Bool.false_eq_true]

/-- What a run over pairs does to a result: it scores a first part of the pairs, and either that is all
of them and no reason is added, or one reason is. -/
structure Scores (m : Measure σ τ) (threshold : τ) (window : Int) (pairs : List (Block × Block))
    (before after : Result σ) (scored left : List (Block × Block)) : Prop where
  split : pairs = scored ++ left
  findings : after.findings = before.findings ++ hits m threshold window scored
  comparisons : after.comparisons = before.comparisons + scored.length
  ending : (left = [] ∧ after.truncated = before.truncated ∧ after.reasons = before.reasons) ∨
    ∃ reason, after.truncated = true ∧ after.reasons = before.reasons ++ [reason]

namespace Scores

variable {m : Measure σ τ} {threshold : τ} {window : Int} {before after : Result σ}

theorem none : Scores m threshold window [] before before [] [] :=
  ⟨rfl, by simp [hits], rfl, .inl ⟨rfl, rfl, rfl⟩⟩

theorem stop (pairs : List (Block × Block)) (reason : Stop) :
    Scores m threshold window pairs before (before.stop reason) [] pairs :=
  ⟨rfl, by simp [hits, Result.stop], rfl, .inr ⟨reason, rfl, rfl⟩⟩

theorem cons {pair : Block × Block} {rest scored left : List (Block × Block)}
    (run : Scores m threshold window rest (before.score m threshold window pair) after scored left) :
    Scores m threshold window (pair :: rest) before after (pair :: scored) left := by
  refine ⟨?_, ?_, ?_, run.ending⟩
  · rw [run.split, List.cons_append]
  · rw [run.findings, hits_cons m threshold window pair scored, Result.score, List.append_assoc,
      hits_cons, hits, List.filter_nil, List.map_nil, List.append_nil]
  · rw [run.comparisons, List.length_cons]
    change before.comparisons + 1 + scored.length = _
    omega

end Scores

theorem compare_scores (m : Measure σ τ) (threshold : τ) (window : Int) (budget : Budget)
    (clock : Clock) (pairs : List (Block × Block)) (readings : Nat) (result : Result σ) :
    ∃ scored left, Scores m threshold window pairs result
      (compare m threshold window budget clock pairs readings result) scored left := by
  induction pairs generalizing readings result with
  | nil => exact ⟨[], [], .none⟩
  | cons pair rest ih =>
      rw [compare_cons]
      split
      · exact ⟨[], _, .stop _ _⟩
      · split
        · exact ⟨[], _, .stop _ _⟩
        · split
          · -- The pair that reaches the limit of findings has been scored.
            exact ⟨[pair], rest, .cons (.stop rest _)⟩
          · obtain ⟨scored, left, run⟩ := ih
              (if result.comparisons % 1000 = 0 then readings + 1 else readings)
              (result.score m threshold window pair)
            exact ⟨pair :: scored, left, .cons run⟩

/-- A run that adds no reason has scored every pair. -/
theorem compare_findings (m : Measure σ τ) (threshold : τ) (window : Int) (budget : Budget)
    (clock : Clock) (pairs : List (Block × Block)) (readings : Nat) (result : Result σ)
    (whole : (compare m threshold window budget clock pairs readings result).truncated = false) :
    result.truncated = false ∧
      (compare m threshold window budget clock pairs readings result).findings =
        result.findings ++ hits m threshold window pairs := by
  obtain ⟨scored, left, run⟩ :=
    compare_scores m threshold window budget clock pairs readings result
  rcases run.ending with ⟨empty, same, -⟩ | ⟨-, cut, -⟩
  · refine ⟨same ▸ whole, ?_⟩
    rw [run.findings, run.split, empty, List.append_nil]
  · rw [whole] at cut
    cases cut

theorem cappedBlocks_of_none {budget : Budget} {window minChars : Int} {file : SourceFile}
    (uncut : (cappedBlocks budget window minChars file).2 = none) :
    (cappedBlocks budget window minChars file).1 = blocks file window minChars := by
  unfold cappedBlocks at uncut ⊢
  dsimp only at uncut ⊢
  split at uncut
  · cases uncut
  · rename_i fits
    rw [if_neg fits]

end CodeSurvey.Clone
