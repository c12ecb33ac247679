import CodeSurvey.Proofs.Clone.Limits

set_option autoImplicit false

namespace CodeSurvey.Clone

variable {σ τ : Type} {m : Measure σ τ} {threshold : τ} {budget : Budget} {clock : Clock}
  {pairs : List (Block × Block)}

theorem scoredPairs_isPrefix : scoredPairs m threshold budget clock pairs <+: pairs :=
  List.take_prefix _ _

theorem allowsAt_of_lt_scoredPairs {index : Nat}
    (early : index < (scoredPairs m threshold budget clock pairs).length) :
    allowsAt m threshold budget clock pairs index = true := by
  rw [scoredPairs, List.length_take] at early
  have before := List.not_of_lt_findIdx (Nat.lt_of_lt_of_le early (Nat.min_le_left _ _))
  simpa using before

/-- The pair that was scored last was allowed by the limit on comparisons. -/
theorem scoredPairs_length_le (positive : 0 ≤ budget.maxComparisons) :
    ((scoredPairs m threshold budget clock pairs).length : Int) ≤ budget.maxComparisons := by
  cases count : (scoredPairs m threshold budget clock pairs).length with
  | zero => exact positive
  | succ last =>
      have passed : allowsAt m threshold budget clock pairs last = true :=
        allowsAt_of_lt_scoredPairs (by omega)
      simp only [allowsAt, allows, Bool.and_eq_true, decide_eq_true_eq] at passed
      have unspent := passed.1.1
      omega

/-- Before the pair that was scored last there was room for one more finding. -/
theorem scoredPairs_similar_le (positive : 1 ≤ budget.maxDuplicates) :
    ((scoredPairs m threshold budget clock pairs).countP (isSimilar m threshold) : Int) ≤
      budget.maxDuplicates := by
  have front : scoredPairs m threshold budget clock pairs =
      pairs.take (scoredPairs m threshold budget clock pairs).length :=
    List.prefix_iff_eq_take.mp scoredPairs_isPrefix
  cases count : (scoredPairs m threshold budget clock pairs).length with
  | zero =>
      rw [List.eq_nil_of_length_eq_zero count, List.countP_nil]
      omega
  | succ last =>
      have passed : allowsAt m threshold budget clock pairs last = true :=
        allowsAt_of_lt_scoredPairs (by omega)
      simp only [allowsAt, allows, Bool.and_eq_true, Bool.or_eq_true, beq_iff_eq,
        decide_eq_true_eq] at passed
      have room := passed.2
      have one : (pairs[last]?.toList).countP (isSimilar m threshold) ≤ 1 := by
        refine Nat.le_trans List.countP_le_length ?_
        cases pairs[last]? <;> simp
      have split : (scoredPairs m threshold budget clock pairs).countP (isSimilar m threshold) =
          similarBefore m threshold pairs last +
            (pairs[last]?.toList).countP (isSimilar m threshold) := by
        rw [front, count, List.take_add_one, List.countP_append, similarBefore]
      omega

theorem Result.score_findings_length (m : Measure σ τ) (threshold : τ) (window : Int)
    (result : Result σ) (pair : Block × Block) :
    (result.score m threshold window pair).findings.length =
      result.findings.length + (if isSimilar m threshold pair then 1 else 0) := by
  change (result.findings ++ hits m threshold window [pair]).length = _
  rw [List.length_append, hits_length, List.countP_singleton]

/-- A pair that does not fill the limit on findings does not decide whether it is reached later. -/
theorem Result.reached_score_iff {window : Int} {result : Result σ} {pair : Block × Block} {count : Nat}
    (room : ¬ (isSimilar m threshold pair = true ∧
      budget.maxDuplicates ≤ (result.score m threshold window pair).findings.length))
    (grows : (result.score m threshold window pair).findings.length ≤ count) :
    ((result.score m threshold window pair).findings.length < count ∧ budget.maxDuplicates ≤ count) ↔
      (result.findings.length < count ∧ budget.maxDuplicates ≤ count) := by
  have hit := result.score_findings_length m threshold window pair
  by_cases similar : isSimilar m threshold pair = true
  · have below : ¬ budget.maxDuplicates ≤
        (result.score m threshold window pair).findings.length :=
      fun reached => room ⟨similar, reached⟩
    rw [if_pos similar] at hit
    omega
  · rw [if_neg similar] at hit
    omega

/-- A run says that something is left out if that was said before, if a pair is left, or if a finding of
its own reached the limit. -/
theorem compare_truncated_iff (m : Measure σ τ) (threshold : τ) (window : Int) (budget : Budget)
    (clock : Clock) (pairs : List (Block × Block)) (readings : Nat) (before : Result σ) :
    let after := compare m threshold window budget clock pairs readings before
    after.truncated = true ↔
      before.truncated = true ∨ after.comparisons < before.comparisons + pairs.length ∨
        (before.findings.length < after.findings.length ∧
          budget.maxDuplicates ≤ after.findings.length) := by
  induction pairs generalizing readings before with
  | nil => simp [compare]
  | cons pair rest ih =>
      dsimp only
      rw [compare_cons]
      split
      · simp [Result.stop]
      · split
        · simp [Result.stop]
        · split
          · -- The finding of this pair is the one that reached the limit.
            rename_i full
            have hit := before.score_findings_length m threshold window pair
            rw [if_pos full.1] at hit
            have grown : before.findings.length <
                (before.score m threshold window pair).findings.length := by omega
            simp [Result.stop, grown, full.2]
          · rename_i room
            have run := ih (if before.comparisons % 1000 = 0 then readings + 1 else readings)
              (before.score m threshold window pair)
            obtain ⟨scored, left, scores⟩ := compare_scores m threshold window budget clock rest
              (if before.comparisons % 1000 = 0 then readings + 1 else readings)
              (before.score m threshold window pair)
            have grows := congrArg List.length scores.findings
            rw [List.length_append] at grows
            dsimp only at run
            generalize compare m threshold window budget clock rest
              (if before.comparisons % 1000 = 0 then readings + 1 else readings)
              (before.score m threshold window pair) = after at run grows ⊢
            have flag : (before.score m threshold window pair).truncated = before.truncated := rfl
            have count : (before.score m threshold window pair).comparisons =
              before.comparisons + 1 := rfl
            have left : after.comparisons < before.comparisons + 1 + rest.length ↔
                after.comparisons < before.comparisons + (rest.length + 1) := by omega
            have longer : (before.score m threshold window pair).findings.length ≤
                after.findings.length := by omega
            have reached := Result.reached_score_iff room longer
            rw [run, flag, count, List.length_cons, left, reached]

/-- The limit on windows leaves out some windows of the file. -/
def DropsWindows (budget : Budget) (window minChars : Int) (file : SourceFile) : Prop :=
  (cappedBlocks budget window minChars file).1.length < (blocks file window minChars).length

theorem dropsWindows_iff {window minChars : Int} {file : SourceFile}
    (positive : 0 ≤ budget.maxWindows) :
    DropsWindows budget window minChars file ↔
      (cappedBlocks budget window minChars file).2.isSome = true := by
  unfold DropsWindows cappedBlocks
  dsimp only
  split
  · rename_i exceeds
    simp only [capped, endIndex, positive, ↓reduceIte, List.length_take, Option.isSome_some,
      iff_true]
    omega
  · simp

theorem windowReasons_ne_nil_iff {window minChars : Int} {files : List SourceFile}
    (positive : 0 ≤ budget.maxWindows) :
    windowReasons window minChars budget files ≠ [] ↔
      ∃ file ∈ files, DropsWindows budget window minChars file := by
  simp only [windowReasons, ne_eq, List.filterMap_eq_nil_iff, dropsWindows_iff positive,
    Option.isSome_iff_ne_none]
  grind

/-- A search says that something is left out just if the limit on windows drops some, a pair of the
others is not compared, or a finding reached the limit. -/
theorem search_truncated_iff_limits (positive : 0 ≤ budget.maxWindows) (m : Measure σ τ)
    (threshold : τ) (window minChars : Int) (clock : Clock) (files : List SourceFile) :
    let result := search m threshold window minChars budget clock files
    result.truncated = true ↔
      (∃ file ∈ files, DropsWindows budget window minChars file) ∨
        result.comparisons < (searchedPairs m threshold window minChars budget files).length ∨
        (0 < result.findings.length ∧ budget.maxDuplicates ≤ result.findings.length) := by
  have run := compare_truncated_iff m threshold window budget clock
    (searchedPairs m threshold window minChars budget files) 1
    ⟨[], !(windowReasons window minChars budget files).isEmpty,
      windowReasons window minChars budget files, 0⟩
  have dropped : (!(windowReasons window minChars budget files).isEmpty) = true ↔
      ∃ file ∈ files, DropsWindows budget window minChars file := by
    rw [← windowReasons_ne_nil_iff positive]
    simp
  dsimp only at run ⊢
  rw [← search_eq_compare, Nat.zero_add, dropped] at run
  exact run

/-- A search never compares more pairs than its limit says, and, with a limit on findings of at least
one, finds no more than that says. It then says that something is left out just if the limit on windows
drops some, a pair of the others is not compared, or the limit on findings is reached. -/
theorem search_within_limits (budget : Budget) (windows : 0 ≤ budget.maxWindows)
    (comparisons : 0 ≤ budget.maxComparisons) (m : Measure σ τ) (threshold : τ)
    (window minChars : Int) (clock : Clock) (files : List SourceFile) :
    let pairs := searchedPairs m threshold window minChars budget files
    let result := search m threshold window minChars budget clock files
    result.comparisons ≤ budget.maxComparisons ∧
      (1 ≤ budget.maxDuplicates →
        result.findings.length ≤ budget.maxDuplicates ∧
        (result.truncated = true ↔
          (∃ file ∈ files, DropsWindows budget window minChars file) ∨
            result.comparisons < pairs.length ∨
            result.findings.length = budget.maxDuplicates)) := by
  intro pairs result
  obtain ⟨counted, found⟩ := search_scored m threshold window minChars budget clock files
  refine ⟨?_, ?_⟩
  · change ((search m threshold window minChars budget clock files).comparisons : Int) ≤ _
    rw [counted]
    exact scoredPairs_length_le comparisons
  · intro duplicates
    have few : (result.findings.length : Int) ≤ budget.maxDuplicates := by
      change ((search m threshold window minChars budget clock files).findings.length : Int) ≤ _
      rw [found, hits_length]
      exact scoredPairs_similar_le duplicates
    have reached : (0 < result.findings.length ∧ budget.maxDuplicates ≤ result.findings.length) ↔
        (result.findings.length : Int) = budget.maxDuplicates := by omega
    refine ⟨few, ?_⟩
    rw [← reached]
    exact search_truncated_iff_limits windows m threshold window minChars clock files

/-- Two files with the same single line. -/
def twinLines : List SourceFile :=
  [⟨"a.js", "x", "js"⟩, ⟨"b.js", "x", "js"⟩]

theorem search_within_limits_of_twin_lines :
    let result := search .double 0.5 1 1 { maxComparisons := 1, maxDuplicates := 1 } (fun _ => 0)
      twinLines
    result.comparisons ≤ (1 : Int) ∧ result.findings.length ≤ (1 : Int) ∧
      result.truncated = true := by
  obtain ⟨compared, limits⟩ := search_within_limits { maxComparisons := 1, maxDuplicates := 1 }
    (by decide) (by decide) .double 0.5 1 1 (fun _ => 0) twinLines
  obtain ⟨found, flag⟩ := limits (by decide)
  exact ⟨compared, found, flag.mpr (.inr (.inr (by decide +kernel)))⟩

/-- A search that reaches its limit on findings at the last pair says that something is left out though
nothing is, and with a limit of zero it still finds something. -/
theorem search_truncated_with_nothing_left :
    (let budget : Budget := { maxDuplicates := 1 }
      let result := search .double 0.5 1 1 budget (fun _ => 0) twinLines
      result.truncated = true ∧ (∀ file ∈ twinLines, ¬ DropsWindows budget 1 1 file) ∧
        result.comparisons = (searchedPairs .double 0.5 1 1 budget twinLines).length) ∧
      (search .double 0.5 1 1 { maxDuplicates := 0 } (fun _ => 0) twinLines).findings.length = 1 := by
  unfold DropsWindows
  decide +kernel

end CodeSurvey.Clone
