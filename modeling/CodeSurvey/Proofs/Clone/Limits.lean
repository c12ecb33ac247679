import CodeSurvey.Proofs.Clone.Compare

/-!
The limits of a search. Whether one more pair is scored depends only on how many pairs have been scored
and how many of them were similar; the pairs of a search that are scored are those before the first
that the limits do not allow. A search therefore finds a first part of what it would find without
limits.
-/

set_option autoImplicit false

namespace CodeSurvey

/-- A time without end is never over. -/
theorem Seconds.exceededBy_infinity (elapsed : Float) :
    (Seconds.real (1 / 0)).exceededBy elapsed = false := by
  have infinite : (1 / 0 : Float).toModel.unpack = .infinity .positive := rfl
  have never : ∀ other : Float.Model.UnpackedFloat,
      Float.Model.UnpackedFloat.lt (.infinity .positive) other = false := by
    intro other
    cases other with
    | infinity sign => cases sign <;> rfl
    | notANumber => rfl
    | zero sign => rfl
    | finite sign mantissa exponent positive => rfl
  have compared : Float.Model.lt (1 / 0 : Float).toModel elapsed.toModel = false := by
    rw [Float.Model.lt, infinite, never]
  apply decide_eq_false
  intro less
  have later : Float.lt (1 / 0) elapsed = true := less
  rw [Float.lt, decide_eq_true_eq] at later
  exact absurd (compared.symm.trans later) (by decide)

namespace Clone

variable {σ τ : Type}

/-- Whether the limits let one more pair be scored, when so many pairs have been scored and so many of
them were similar. The clock is looked at before every thousandth pair only, and a limit on findings is
not reached without a finding. -/
def allows (budget : Budget) (clock : Clock) (scored similar : Nat) : Bool :=
  decide (scored < budget.maxComparisons) &&
    !(scored % 1000 == 0 && budget.time.exceededBy (clock (scored / 1000 + 1) - clock 0)) &&
    (similar == 0 || decide (similar < budget.maxDuplicates))

/-- How many of the first pairs are similar. -/
def similarBefore (m : Measure σ τ) (threshold : τ) (pairs : List (Block × Block)) (index : Nat) :
    Nat :=
  (pairs.take index).countP (isSimilar m threshold)

/-- Whether the pair at an index is scored, once all pairs before it are. -/
def allowsAt (m : Measure σ τ) (threshold : τ) (budget : Budget) (clock : Clock)
    (pairs : List (Block × Block)) (index : Nat) : Bool :=
  allows budget clock index (similarBefore m threshold pairs index)

/-- The pairs that are scored: those before the first one that the limits do not allow. -/
def scoredPairs (m : Measure σ τ) (threshold : τ) (budget : Budget) (clock : Clock)
    (pairs : List (Block × Block)) : List (Block × Block) :=
  pairs.take ((List.range pairs.length).findIdx fun index =>
    !allowsAt m threshold budget clock pairs index)

theorem hits_length (m : Measure σ τ) (threshold : τ) (window : Int)
    (pairs : List (Block × Block)) :
    (hits m threshold window pairs).length = pairs.countP (isSimilar m threshold) := by
  rw [hits, List.length_map, List.countP_eq_length_filter]

theorem scoredPairs_eq_take {m : Measure σ τ} {threshold : τ} {budget : Budget} {clock : Clock}
    {pairs : List (Block × Block)} {count : Nat} (within : count ≤ pairs.length)
    (allowed : ∀ index < count, allowsAt m threshold budget clock pairs index = true)
    (stopped : count < pairs.length → allowsAt m threshold budget clock pairs count = false) :
    scoredPairs m threshold budget clock pairs = pairs.take count := by
  unfold scoredPairs
  congr 1
  rcases Nat.lt_or_ge count pairs.length with before | whole
  · rw [List.findIdx_eq (by simpa using before)]
    refine ⟨by simp [stopped before], ?_⟩
    intro index earlier
    simp [allowed index earlier]
  · have all : count = (List.range pairs.length).length := by
      rw [List.length_range]
      omega
    rw [all, List.findIdx_eq_length]
    intro index member
    have earlier := List.mem_range.mp member
    simp [allowed index (by omega)]

/-- The state of a run that has scored some pairs and goes on: it has counted them, it has found the
similar ones without reaching the limit, and it has read the clock at the start and before every
thousandth pair. -/
structure Ongoing (m : Measure σ τ) (threshold : τ) (budget : Budget)
    (front : List (Block × Block)) (readings : Nat) (result : Result σ) : Prop where
  counted : result.comparisons = front.length
  found : result.findings.length = front.countP (isSimilar m threshold)
  read : readings = (front.length + 999) / 1000 + 1
  below : front.countP (isSimilar m threshold) = 0 ∨
    (front.countP (isSimilar m threshold) : Int) < budget.maxDuplicates

/-- What a run shows of its limits: it passed them at every pair that it scored, and did not at the
next one if there is one. -/
structure StopsAtLimit (m : Measure σ τ) (threshold : τ) (budget : Budget) (clock : Clock)
    (pairs : List (Block × Block)) (start count : Nat) : Prop where
  allowed : ∀ index, start ≤ index → index < count →
    allowsAt m threshold budget clock pairs index = true
  stopped : count < pairs.length → allowsAt m threshold budget clock pairs count = false

namespace StopsAtLimit

variable {m : Measure σ τ} {threshold : τ} {budget : Budget} {clock : Clock}
  {pairs : List (Block × Block)} {start count : Nat}

theorem here (shut : allowsAt m threshold budget clock pairs start = false) :
    StopsAtLimit m threshold budget clock pairs start start :=
  ⟨fun _ above below => absurd below (Nat.not_lt.mpr above), fun _ => shut⟩

theorem next (passed : allowsAt m threshold budget clock pairs start = true)
    (later : StopsAtLimit m threshold budget clock pairs (start + 1) count) :
    StopsAtLimit m threshold budget clock pairs start count := by
  refine ⟨?_, later.stopped⟩
  intro index above below
  rcases Nat.eq_or_lt_of_le above with rfl | beyond
  · exact passed
  · exact later.allowed index beyond below

end StopsAtLimit

namespace Ongoing

variable {m : Measure σ τ} {threshold : τ} {window : Int} {budget : Budget} {clock : Clock}
  {front rest : List (Block × Block)} {pair : Block × Block} {readings : Nat} {result : Result σ}

theorem start (m : Measure σ τ) (threshold : τ) (budget : Budget) (truncated : Bool)
    (reasons : List Stop) : Ongoing m threshold budget [] 1 ⟨[], truncated, reasons, 0⟩ :=
  ⟨rfl, rfl, rfl, .inl rfl⟩

/-- The clock is read exactly for the pairs that come with a time check. -/
theorem reading (ongoing : Ongoing m threshold budget front readings result)
    (timed : front.length % 1000 = 0) : readings = front.length / 1000 + 1 := by
  have read := ongoing.read
  omega

theorem score_counted (ongoing : Ongoing m threshold budget front readings result) :
    (result.score m threshold window pair).comparisons = (front ++ [pair]).length := by
  rw [List.length_append, ← ongoing.counted]
  rfl

theorem score_found (ongoing : Ongoing m threshold budget front readings result) :
    (result.score m threshold window pair).findings.length =
      (front ++ [pair]).countP (isSimilar m threshold) := by
  change (result.findings ++ hits m threshold window [pair]).length = _
  rw [List.length_append, ongoing.found, hits_length, List.countP_append]

/-- What the limits allow next is what a round looks at before it scores a pair. -/
theorem allowsAt_iff (ongoing : Ongoing m threshold budget front readings result)
    (clock : Clock) (rest : List (Block × Block)) :
    allowsAt m threshold budget clock (front ++ rest) front.length = true ↔
      ¬ budget.maxComparisons ≤ result.comparisons ∧
        ¬ (result.comparisons % 1000 = 0 ∧ budget.time.exceededBy (clock readings - clock 0)) := by
  have below : (front.countP (isSimilar m threshold) == 0 ||
      decide ((front.countP (isSimilar m threshold) : Int) < budget.maxDuplicates)) = true := by
    simpa using ongoing.below
  rw [allowsAt, similarBefore, List.take_left, allows, below, Bool.and_true, ongoing.counted]
  by_cases timed : front.length % 1000 = 0
  · simp [timed, ongoing.reading timed]
  · simp [timed]

/-- A pair that reaches the limit on findings is the last one that is scored. -/
theorem allowsAt_of_reached (ongoing : Ongoing m threshold budget front readings result)
    (clock : Clock) (rest : List (Block × Block)) (similar : isSimilar m threshold pair = true)
    (reached : budget.maxDuplicates ≤ (result.score m threshold window pair).findings.length) :
    allowsAt m threshold budget clock (front ++ pair :: rest) (front.length + 1) = false := by
  have split : (front ++ pair :: rest).take (front.length + 1) = front ++ [pair] := by
    rw [List.take_length_add_append]
    rfl
  have some : (front ++ [pair]).countP (isSimilar m threshold) ≠ 0 := by
    rw [List.countP_append, List.countP_singleton, if_pos similar]
    omega
  rw [ongoing.score_found] at reached
  have full : ¬ ((front ++ [pair]).countP (isSimilar m threshold) : Int) < budget.maxDuplicates := by
    omega
  rw [allowsAt, similarBefore, split, allows, decide_eq_false full, beq_false_of_ne some,
    Bool.or_false, Bool.and_false]

/-- One more pair has been scored and the limit on findings is not reached by it. -/
theorem score (ongoing : Ongoing m threshold budget front readings result)
    (below : ¬ (isSimilar m threshold pair = true ∧
      budget.maxDuplicates ≤ (result.score m threshold window pair).findings.length)) :
    Ongoing m threshold budget (front ++ [pair])
      (if result.comparisons % 1000 = 0 then readings + 1 else readings)
      (result.score m threshold window pair) := by
  refine ⟨ongoing.score_counted, ongoing.score_found, ?_, ?_⟩
  · rw [ongoing.read, ongoing.counted, List.length_append, List.length_singleton]
    split <;> omega
  · by_cases similar : isSimilar m threshold pair = true
    · rw [ongoing.score_found] at below
      have room : ¬ budget.maxDuplicates ≤ (front ++ [pair]).countP (isSimilar m threshold) :=
        fun reached => below ⟨similar, reached⟩
      exact .inr (by omega)
    · have same : (front ++ [pair]).countP (isSimilar m threshold) =
          front.countP (isSimilar m threshold) := by
        rw [List.countP_append, List.countP_singleton, if_neg similar, Nat.add_zero]
      rw [same]
      exact ongoing.below

end Ongoing

theorem compare_stopsAtLimit (m : Measure σ τ) (threshold : τ) (window : Int) (budget : Budget)
    (clock : Clock) (front rest : List (Block × Block)) (readings : Nat) (result : Result σ)
    (ongoing : Ongoing m threshold budget front readings result) :
    StopsAtLimit m threshold budget clock (front ++ rest) front.length
      (compare m threshold window budget clock rest readings result).comparisons := by
  induction rest generalizing front readings result with
  | nil =>
      rw [compare, ongoing.counted, List.append_nil]
      exact ⟨fun _ above below => absurd below (Nat.not_lt.mpr above),
        fun less => absurd less (Nat.lt_irrefl _)⟩
  | cons pair rest ih =>
      have limits := ongoing.allowsAt_iff clock (pair :: rest)
      rw [compare_cons]
      split
      · rename_i spent
        change StopsAtLimit _ _ _ _ _ _ result.comparisons
        rw [ongoing.counted]
        exact .here (Bool.eq_false_iff.mpr fun passed => (limits.mp passed).1 spent)
      · rename_i unspent
        split
        · rename_i late
          change StopsAtLimit _ _ _ _ _ _ result.comparisons
          rw [ongoing.counted]
          exact .here (Bool.eq_false_iff.mpr fun passed => (limits.mp passed).2 late)
        · rename_i early
          have passed := limits.mpr ⟨unspent, early⟩
          split
          · rename_i full
            change StopsAtLimit _ _ _ _ _ _ (result.score m threshold window pair).comparisons
            rw [ongoing.score_counted, List.length_append, List.length_singleton]
            exact .next passed (.here (ongoing.allowsAt_of_reached clock rest full.1 full.2))
          · rename_i room
            have run := ih (front ++ [pair]) _ _ (ongoing.score room)
            rw [List.append_assoc, List.singleton_append, List.length_append,
              List.length_singleton] at run
            exact .next passed run

/-- The pairs of windows that a search scores unless a limit stops it. -/
def searchedPairs (m : Measure σ τ) (threshold : τ) (window minChars : Int) (budget : Budget)
    (files : List SourceFile) : List (Block × Block) :=
  candidates m threshold (files.map fun file => (cappedBlocks budget window minChars file).1)

/-- The reasons that a search begins with: one for each file with too many windows. -/
def windowReasons (window minChars : Int) (budget : Budget) (files : List SourceFile) : List Stop :=
  files.filterMap fun file => (cappedBlocks budget window minChars file).2

theorem search_eq_compare (m : Measure σ τ) (threshold : τ) (window minChars : Int)
    (budget : Budget) (clock : Clock) (files : List SourceFile) :
    search m threshold window minChars budget clock files =
      compare m threshold window budget clock
        (searchedPairs m threshold window minChars budget files) 1
        ⟨[], !(windowReasons window minChars budget files).isEmpty,
          windowReasons window minChars budget files, 0⟩ := by
  unfold search searchedPairs windowReasons
  dsimp only
  rw [List.map_map, List.filterMap_map]
  rfl

/-- A search scores the pairs that the limits allow, and finds what is similar among them. -/
theorem search_scored (m : Measure σ τ) (threshold : τ) (window minChars : Int) (budget : Budget)
    (clock : Clock) (files : List SourceFile) :
    let scored := scoredPairs m threshold budget clock
      (searchedPairs m threshold window minChars budget files)
    (search m threshold window minChars budget clock files).comparisons = scored.length ∧
      (search m threshold window minChars budget clock files).findings =
        hits m threshold window scored := by
  intro scored
  rw [search_eq_compare]
  generalize windowReasons window minChars budget files = reasons
  have limits := compare_stopsAtLimit m threshold window budget clock []
    (searchedPairs m threshold window minChars budget files) 1 _
    (.start m threshold budget (!reasons.isEmpty) reasons)
  obtain ⟨front, left, run⟩ := compare_scores m threshold window budget clock
    (searchedPairs m threshold window minChars budget files) 1 ⟨[], !reasons.isEmpty, reasons, 0⟩
  have count := run.comparisons
  rw [Nat.zero_add] at count
  rw [count, List.nil_append] at limits
  have same : scored = front := by
    have within : front.length ≤ (front ++ left).length := by
      rw [List.length_append]
      omega
    rw [← run.split] at within
    have cut := scoredPairs_eq_take within (fun index => limits.allowed index (Nat.zero_le _))
      limits.stopped
    rwa [run.split, List.take_left, ← run.split] at cut
  rw [count, run.findings, List.nil_append, same]
  exact ⟨rfl, rfl⟩

theorem search_findings_of_complete {m : Measure σ τ} {threshold : τ} {window minChars : Int}
    {budget : Budget} {clock : Clock} {files : List SourceFile}
    (complete : (search m threshold window minChars budget clock files).truncated = false) :
    (search m threshold window minChars budget clock files).findings =
      hits m threshold window (searchedPairs m threshold window minChars budget files) := by
  rw [search_eq_compare] at complete ⊢
  have found := (compare_findings _ _ _ _ _ _ _ _ complete).2
  rwa [List.nil_append] at found

/-- A search that leaves nothing out has all windows of all files before it. -/
theorem searchedPairs_of_complete {m : Measure σ τ} {threshold : τ} {window minChars : Int}
    {budget : Budget} {clock : Clock} {files : List SourceFile}
    (complete : (search m threshold window minChars budget clock files).truncated = false) :
    searchedPairs m threshold window minChars budget files =
      candidates m threshold (files.map fun file => blocks file window minChars) := by
  rw [search_eq_compare] at complete
  have empty := (compare_findings _ _ _ _ _ _ _ _ complete).1
  have uncut : ∀ file ∈ files, (cappedBlocks budget window minChars file).2 = none := by
    simpa [windowReasons, List.filterMap_eq_nil_iff] using empty
  unfold searchedPairs
  congr 1
  apply List.map_congr_left
  intro file member
  exact cappedBlocks_of_none (uncut file member)

theorem search_truncated_iff (m : Measure σ τ) (threshold : τ) (window minChars : Int)
    (budget : Budget) (clock : Clock) (files : List SourceFile) :
    (search m threshold window minChars budget clock files).truncated = true ↔
      (search m threshold window minChars budget clock files).reasons ≠ [] := by
  rw [search_eq_compare]
  obtain ⟨_, _, run⟩ := compare_scores m threshold window budget clock
    (searchedPairs m threshold window minChars budget files) 1
    ⟨[], !(windowReasons window minChars budget files).isEmpty,
      windowReasons window minChars budget files, 0⟩
  rcases run.ending with ⟨-, flag, reasons⟩ | ⟨reason, flag, reasons⟩
  · rw [flag, reasons]
    simp
  · rw [flag, reasons]
    simp

/-- A budget that limits windows as another does and sets no other limit that so many pairs could
reach. -/
structure LiftsLimits (free budget : Budget) (count : Nat) : Prop where
  windows : free.maxWindows = budget.maxWindows
  comparisons : count ≤ free.maxComparisons
  duplicates : count < free.maxDuplicates
  time : ∀ elapsed, free.time.exceededBy elapsed = false

theorem exists_liftsLimits (budget : Budget) (count : Nat) :
    ∃ free, LiftsLimits free budget count :=
  ⟨{ budget with maxComparisons := count, maxDuplicates := count + 1, time := .real (1 / 0) },
    rfl, Int.le_refl _, Int.lt_succ _, Seconds.exceededBy_infinity⟩

namespace LiftsLimits

variable {free budget : Budget}

theorem searchedPairs_eq {count : Nat} (lifts : LiftsLimits free budget count) (m : Measure σ τ)
    (threshold : τ) (window minChars : Int) (files : List SourceFile) :
    searchedPairs m threshold window minChars free files =
      searchedPairs m threshold window minChars budget files := by
  simp only [searchedPairs, cappedBlocks, lifts.windows]

theorem scoredPairs_eq {pairs : List (Block × Block)}
    (lifts : LiftsLimits free budget pairs.length) (m : Measure σ τ) (threshold : τ)
    (clock : Clock) : scoredPairs m threshold free clock pairs = pairs := by
  have allowed : ∀ index < pairs.length, allowsAt m threshold free clock pairs index = true := by
    intro index inside
    have few : similarBefore m threshold pairs index ≤ index :=
      Nat.le_trans List.countP_le_length (List.length_take_le index pairs)
    have comparisons := lifts.comparisons
    have duplicates := lifts.duplicates
    have unspent : (index : Int) < free.maxComparisons := by omega
    have room : (similarBefore m threshold pairs index : Int) < free.maxDuplicates := by omega
    simp [allowsAt, allows, lifts.time, unspent, room]
  rw [scoredPairs_eq_take (Nat.le_refl _) allowed fun less => absurd less (Nat.lt_irrefl _),
    List.take_length]

/-- Without limits every pair is scored. -/
theorem search_all (m : Measure σ τ) (threshold : τ) (window minChars : Int)
    (files : List SourceFile)
    (lifts : LiftsLimits free budget
      (searchedPairs m threshold window minChars budget files).length) (clock : Clock) :
    (search m threshold window minChars free clock files).comparisons =
        (searchedPairs m threshold window minChars budget files).length ∧
      (search m threshold window minChars free clock files).findings =
        hits m threshold window (searchedPairs m threshold window minChars budget files) := by
  have scored := search_scored m threshold window minChars free clock files
  rw [lifts.searchedPairs_eq, lifts.scoredPairs_eq] at scored
  exact scored

end LiftsLimits

theorem hits_isPrefix (m : Measure σ τ) (threshold : τ) (window : Int)
    {front pairs : List (Block × Block)} (part : front <+: pairs) :
    hits m threshold window front <+: hits m threshold window pairs :=
  (part.filter _).map _

/-- There are budgets that limit windows as a given one does and nothing else, and the search with such
a budget scores every pair. What a search finds is a first part of that, and all of it unless something
is left out. It counts the pairs that it scores, those before the first that its limits do not allow,
and it tells that something is left out just if it gives a reason. -/
theorem search_prefix_of_unlimited (m : Measure σ τ) (threshold : τ) (window minChars : Int)
    (budget : Budget) (clock : Clock) (files : List SourceFile) :
    let pairs := searchedPairs m threshold window minChars budget files
    let scored := scoredPairs m threshold budget clock pairs
    let result := search m threshold window minChars budget clock files
    (∃ free, LiftsLimits free budget pairs.length) ∧
      (∀ free readings, LiftsLimits free budget pairs.length →
        let whole := search m threshold window minChars free readings files
        whole.comparisons = pairs.length ∧ result.findings <+: whole.findings ∧
          (result.truncated = false → result.findings = whole.findings)) ∧
      result.comparisons = scored.length ∧
      result.findings = hits m threshold window scored ∧
      (result.truncated = true ↔ result.reasons ≠ []) := by
  intro pairs scored result
  obtain ⟨counted, found⟩ := search_scored m threshold window minChars budget clock files
  refine ⟨exists_liftsLimits budget pairs.length, ?_, counted, found,
    search_truncated_iff m threshold window minChars budget clock files⟩
  intro free readings lifts whole
  obtain ⟨all, wholeFound⟩ := LiftsLimits.search_all m threshold window minChars files lifts readings
  refine ⟨all, ?_, ?_⟩
  · have part : scored <+: pairs := List.take_prefix _ _
    change result.findings <+: (search m threshold window minChars free readings files).findings
    rw [wholeFound]
    exact found ▸ hits_isPrefix m threshold window part
  · intro complete
    exact (search_findings_of_complete complete).trans wholeFound.symm

end Clone

end CodeSurvey
