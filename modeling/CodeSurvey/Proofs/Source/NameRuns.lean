import CodeSurvey.Proofs.Source.WholeUses
import Mathlib.Algebra.GroupWithZero.Nat
import Mathlib.Data.Fintype.Card

/-!
Maximal runs of the characters that continue names. A scan for names meets every run of a text once
and takes from it what follows the first character that may begin a name, so that the number of a
token is a number of runs.
-/

set_option autoImplicit false

namespace CodeSurvey.Source

open Name

/-- The match for a name among characters that all continue one, where `pos` characters are before
them. -/
def nameAmong? (pos : Nat) (chars : List Char) : Option Found :=
  let name := chars.dropWhile (!isStart ·)
  if name.isEmpty then none
  else some ⟨pos + chars.length - name.length, pos + chars.length, [(1, name)]⟩

/-- A maximal run of name characters in a text, with what is before it and what is after it. -/
@[ext]
structure Run (text : List Char) where
  before : List Char
  chars : List Char
  after : List Char
  split : text = before ++ (chars ++ after)
  filled : chars ≠ []
  fit : ∀ c ∈ chars, isRest c = true
  left : before.getLast?.any isRest = false
  right : after.head?.any isRest = false

namespace Run

variable {text : List Char}

def start (run : Run text) : Nat :=
  run.before.length

/-- How many characters there are up to the end of a run. -/
def stop (run : Run text) : Nat :=
  run.before.length + run.chars.length

/-- A run from the first character on that may begin a name. -/
def name (run : Run text) : List Char :=
  run.chars.dropWhile (!isStart ·)

/-- What a run comes down to: its name, without the dollar signs in front. -/
def token (run : Run text) : List Char :=
  bareName run.name

/-- The match for a name in a run. -/
def found? (run : Run text) : Option Found :=
  nameAmong? run.start run.chars

/-- A run is known by where it begins. -/
theorem eq_of_start {first second : Run text} (same : first.start = second.start) :
    first = second := by
  obtain ⟨before, behind⟩ := List.append_inj (first.split.symm.trans second.split) same
  have chars := eq_of_rest_ends behind first.fit second.fit first.right second.right
  rw [chars] at behind
  exact Run.ext before chars (List.append_cancel_left behind)

/-- Of two runs, one ends before the other begins, and something is between them. -/
theorem stop_lt_start {first second : Run text} (early : first.start < second.start) :
    first.stop < second.start := by
  by_contra late
  have upToFirst : first.before ++ first.chars <+: text :=
    ⟨first.after, (List.append_assoc _ _ _).trans first.split.symm⟩
  have upToSecond : second.before <+: text := ⟨_, second.split.symm⟩
  obtain ⟨inner, join⟩ : first.before <+: second.before :=
    List.prefix_of_prefix_length_le ((List.prefix_append _ _).trans upToFirst) upToSecond
      (Nat.le_of_lt early)
  obtain ⟨more, cut⟩ : second.before <+: first.before ++ first.chars := by
    refine List.prefix_of_prefix_length_le upToSecond upToFirst ?_
    rw [List.length_append]
    exact Nat.le_of_not_lt late
  -- The character before `second` belongs to `first`.
  rw [← join, List.append_assoc] at cut
  have inFirst : inner ++ more = first.chars := List.append_cancel_left cut
  have between : inner ≠ [] := by
    rintro rfl
    rw [List.append_nil] at join
    exact absurd (congrArg List.length join) (Nat.ne_of_lt early)
  have last := second.left
  rw [← join, List.getLast?_append_of_ne_nil _ between, List.getLast?_eq_some_getLast between,
    Option.any_some] at last
  have fits := first.fit (inner.getLast between)
    (inFirst ▸ List.mem_append_left more (List.getLast_mem between))
  rw [last] at fits
  cases fits

/-- The run that begins at a character, where none goes on. -/
def opening (before : List Char) (x : Char) (rest : List Char) (split : text = before ++ x :: rest)
    (fresh : before.getLast?.any isRest = false) (fits : isRest x = true) : Run text where
  before := before
  chars := (x :: rest).takeWhile isRest
  after := (x :: rest).dropWhile isRest
  split := by rw [List.takeWhile_append_dropWhile, split]
  filled := by simp [fits]
  fit := List.all_eq_true.mp List.all_takeWhile
  left := fresh
  right := head?_dropWhile_isRest _

end Run

/-- The runs of a text that begin behind its first characters `before`, from left to right. -/
def runsFrom {text : List Char} :
    (before rest : List Char) → text = before ++ rest → List (Run text)
  | _, [], _ => []
  | before, x :: rest, split =>
    let later := runsFrom (before ++ [x]) rest (split.trans (List.append_cons before x rest))
    if opens : before.getLast?.any isRest = false ∧ isRest x = true then
      Run.opening before x rest split opens.1 opens.2 :: later
    else later

def runs (text : List Char) : List (Run text) :=
  runsFrom [] text rfl

section Listing

variable {text : List Char}

theorem le_start_of_mem_runsFrom {before rest : List Char} {split : text = before ++ rest}
    {run : Run text} (member : run ∈ runsFrom before rest split) : before.length ≤ run.start := by
  induction rest generalizing before with
  | nil => cases member
  | cons x rest ih =>
      have weaken : (before ++ [x]).length ≤ run.start → before.length ≤ run.start := by
        rw [List.length_append]
        exact Nat.le_of_add_right_le
      rw [runsFrom] at member
      split at member
      · rcases List.mem_cons.mp member with rfl | later
        · exact Nat.le_refl _
        · exact weaken (ih later)
      · exact weaken (ih member)

theorem mem_runsFrom {before rest : List Char} (split : text = before ++ rest) (run : Run text)
    (behind : before.length ≤ run.start) : run ∈ runsFrom before rest split := by
  induction rest generalizing before with
  | nil =>
      have size := congrArg List.length (split.symm.trans run.split)
      have room := List.length_pos_of_ne_nil run.filled
      simp only [List.length_append, List.length_nil] at size
      rw [Run.start] at behind
      omega
  | cons x rest ih =>
      rw [runsFrom]
      by_cases here : run.start = before.length
      -- A run that begins at `x` finds none going on there, so it is the one that opens.
      · obtain ⟨front, back⟩ := List.append_inj (run.split.symm.trans split) here
        have opens : before.getLast?.any isRest = false ∧ isRest x = true := by
          refine ⟨front ▸ run.left, ?_⟩
          obtain ⟨first, more, chars⟩ := List.exists_cons_of_ne_nil run.filled
          rw [chars, List.cons_append] at back
          exact (List.cons.inj back).1 ▸ run.fit first (chars ▸ List.mem_cons_self)
        have same : run = Run.opening before x rest split opens.1 opens.2 := Run.eq_of_start here
        rw [dif_pos opens, same]
        exact List.mem_cons_self
      · have later := ih (split.trans (List.append_cons before x rest)) (by
          rw [List.length_append, List.length_singleton]
          omega)
        split
        · exact List.mem_cons_of_mem _ later
        · exact later

theorem runsFrom_pairwise {before rest : List Char} (split : text = before ++ rest) :
    (runsFrom before rest split).Pairwise (·.start < ·.start) := by
  induction rest generalizing before with
  | nil => exact List.Pairwise.nil
  | cons x rest ih =>
      have later := ih (split.trans (List.append_cons before x rest))
      rw [runsFrom]
      split
      · refine List.pairwise_cons.mpr ⟨fun run member => ?_, later⟩
        have bound := le_start_of_mem_runsFrom member
        rw [List.length_append] at bound
        exact bound
      · exact later

theorem mem_runs (run : Run text) : run ∈ runs text :=
  mem_runsFrom (List.nil_append text).symm run (Nat.zero_le _)

theorem runs_pairwise (text : List Char) :
    (runs text).Pairwise fun first second => first.stop < second.start := by
  have ordered := runsFrom_pairwise (List.nil_append text).symm
  exact ordered.imp fun early => Run.stop_lt_start early

theorem runs_nodup (text : List Char) : (runs text).Nodup := by
  have ordered := runsFrom_pairwise (List.nil_append text).symm
  exact ordered.imp fun early same => Nat.ne_of_lt early (congrArg Run.start same)

instance : Fintype (Run text) where
  elems := ⟨runs text, runs_nodup text⟩
  complete := mem_runs

theorem card_runs (text token : List Char) :
    Fintype.card {run : Run text // run.token = token} =
      ((runs text).map Run.token).count token := by
  calc Fintype.card {run : Run text // run.token = token}
      = ((runs text).filter fun run => decide (run.token = token)).length :=
        Fintype.card_subtype _
    _ = (runs text).countP fun run => run.token == token := by
        simp only [List.countP_eq_length_filter, beq_eq_decide]
    _ = ((runs text).map Run.token).count token := by
        rw [List.count, List.countP_map]
        rfl

end Listing

section Scan

theorem nameAmong?_of_isStart {x : Char} (starts : isStart x = true) (pos : Nat)
    (chars : List Char) :
    nameAmong? pos (x :: chars) =
      some ⟨pos, pos + 1 + chars.length, [(1, x :: chars)]⟩ := by
  have whole : (x :: chars).dropWhile (!isStart ·) = x :: chars :=
    List.dropWhile_cons_of_neg (by simp [starts])
  have size : pos + (chars.length + 1) = pos + 1 + chars.length := by omega
  simp [nameAmong?, whole, ← size]

theorem nameAmong?_of_not_isStart {x : Char} (other : ¬ isStart x = true) (pos : Nat)
    (chars : List Char) : nameAmong? pos (x :: chars) = nameAmong? (pos + 1) chars := by
  have size : pos + (chars.length + 1) = pos + 1 + chars.length := by omega
  simp [nameAmong?, other, size]

/-- A scan finds at most one name in a run and goes on behind the run. -/
theorem scanFrom_run (chars : List Char) {after : List Char} (fit : ∀ c ∈ chars, isRest c = true)
    (ended : after.head?.any isRest = false) (pos : Nat) (last : Option Char) :
    ∃ other, (Pattern.part 1 Name.pattern).scanFrom (chars ++ after) pos last 0 =
      (nameAmong? pos chars).toList ++
        (Pattern.part 1 Name.pattern).scanFrom after (pos + chars.length) other 0 := by
  induction chars generalizing pos last with
  | nil => exact ⟨last, rfl⟩
  | cons x chars ih =>
      have inside : ∀ c ∈ chars, isRest c = true :=
        fun c member => fit c (List.mem_cons_of_mem x member)
      have size : pos + (x :: chars).length = pos + 1 + chars.length := by
        rw [List.length_cons]
        omega
      rw [List.cons_append, Pattern.scanFrom, matchAt_name, size]
      by_cases starts : isStart x = true
      -- The name takes all that is left of the run, and the scan skips it.
      · have skip : pos + 1 + chars.length - pos - 1 = chars.length := by omega
        obtain ⟨other, later⟩ := scanFrom_skip (Pattern.part 1 Name.pattern) (chars ++ after)
          (pos + 1) (some x) chars.length
        refine ⟨other, ?_⟩
        rw [if_pos starts, takeWhile_isRest_append inside ended, nameAmong?_of_isStart starts]
        dsimp only
        rw [skip, later, List.drop_left]
        rfl
      · rw [if_neg starts, nameAmong?_of_not_isStart starts]
        exact ih inside (pos + 1) (some x)

variable {text : List Char}

/-- Within a run no other one begins. -/
theorem runsFrom_inside {before rest : List Char} (split : text = before ++ rest)
    (inside : before.getLast?.any isRest = true) :
    runsFrom before rest split =
      runsFrom (before ++ rest.takeWhile isRest) (rest.dropWhile isRest)
        (by rw [List.append_assoc, List.takeWhile_append_dropWhile, split]) := by
  induction rest generalizing before with
  | nil => rfl
  | cons x rest ih =>
      by_cases fits : isRest x = true
      · rw [runsFrom, dif_neg (by simp [inside]), ih _ (by simpa using fits)]
        simp [fits]
      · simp [fits]

/-- Where a run begins, the next ones begin behind it. -/
theorem runsFrom_opening {before rest : List Char} {x : Char} (split : text = before ++ x :: rest)
    (fresh : before.getLast?.any isRest = false) (fits : isRest x = true) :
    runsFrom before (x :: rest) split =
      Run.opening before x rest split fresh fits ::
        runsFrom (before ++ (x :: rest).takeWhile isRest) ((x :: rest).dropWhile isRest)
          (by rw [List.append_assoc, List.takeWhile_append_dropWhile, split]) := by
  rw [runsFrom, dif_pos ⟨fresh, fits⟩, runsFrom_inside _ (by simpa using fits)]
  simp [fits]

/-- What follows a place where no run goes on is scanned run by run. -/
theorem scanFrom_runsFrom {before rest : List Char} (split : text = before ++ rest)
    (fresh : rest.head?.any isRest = true → before.getLast?.any isRest = false)
    (last : Option Char) :
    (Pattern.part 1 Name.pattern).scanFrom rest before.length last 0 =
      (runsFrom before rest split).flatMap (·.found?.toList) := by
  -- A step of the scan may pass a whole run, so the induction is on the length of what is left.
  induction size : rest.length using Nat.strong_induction_on generalizing before rest last with
  | _ length ih =>
      cases rest with
      | nil => rfl
      | cons x rest =>
          rw [List.length_cons] at size
          by_cases fits : isRest x = true
          · have ended := head?_dropWhile_isRest (x :: rest)
            have shorter : ((x :: rest).dropWhile isRest).length < length := by
              have bound := (List.dropWhile_suffix isRest (l := rest)).length_le
              rw [List.dropWhile_cons_of_pos fits]
              omega
            obtain ⟨other, scanned⟩ := scanFrom_run ((x :: rest).takeWhile isRest)
              (List.all_eq_true.mp List.all_takeWhile) ended before.length last
            have later := ih _ shorter
              (by rw [List.append_assoc, List.takeWhile_append_dropWhile, split])
              (fun more => by rw [ended] at more; cases more) other rfl
            rw [List.takeWhile_append_dropWhile, ← List.length_append, later] at scanned
            rw [scanned, runsFrom_opening split (fresh fits) fits, List.flatMap_cons]
            rfl
          · have other : ¬ isStart x = true := fun starts => fits (isRest_of_isStart starts)
            have later := ih rest.length (by omega) (split.trans (List.append_cons before x rest))
              (fun _ => by simpa using fits) (some x) rfl
            rw [List.length_append] at later
            rw [Pattern.scanFrom, matchAt_name, if_neg other, runsFrom,
              dif_neg (fun opens => fits opens.2)]
            exact later

/-- The matches for names in a line are those in its runs. -/
theorem scan_runs (line : List Char) :
    (Pattern.part 1 Name.pattern).scan line = (runs line).filterMap Run.found? := by
  rw [List.filterMap_eq_flatMap_toList]
  exact scanFrom_runsFrom (List.nil_append line).symm (fun _ => rfl) none

theorem Run.found?_of_name_eq_nil {run : Run text} (empty : run.name = []) :
    run.found? = none := by
  rw [Run.name] at empty
  simp [Run.found?, nameAmong?, empty]

theorem Run.exists_found {run : Run text} (named : run.name ≠ []) :
    ∃ found, run.found? = some found ∧ found.part 1 = run.name := by
  have visible : ¬ run.name.isEmpty = true := by simpa using named
  exact ⟨_, if_neg visible, rfl⟩

/-- The tokens of a line are what its runs come down to, where something is left. -/
theorem lineTokens_eq_runs (line : List Char) :
    lineTokens line = ((runs line).map Run.token).filter (!·.isEmpty) := by
  rw [lineTokens, scan_runs]
  induction runs line with
  | nil => rfl
  | cons run later ih =>
      by_cases empty : run.name = []
      · have nothing : run.token = [] := by
          rw [Run.token, empty]
          rfl
        rw [List.filterMap_cons_none (Run.found?_of_name_eq_nil empty), ih, List.map_cons,
          List.filter_cons_of_neg (by simp [nothing])]
      · obtain ⟨found, met, part⟩ := Run.exists_found empty
        rw [List.filterMap_cons_some met, List.map_cons, part, List.filter_cons, ih, List.map_cons,
          List.filter_cons]
        rfl

end Scan

section Count

theorem count_lineTokens_eq_card (line : List Char) {token : List Char} (filled : token ≠ []) :
    (lineTokens line).count token = Fintype.card {run : Run line // run.token = token} := by
  rw [lineTokens_eq_runs, card_runs, List.count_filter (by simpa using filled)]

/-- How many runs of the lines come down to a token. -/
def runCount (lines : List (List Char)) (token : List Char) : Nat :=
  (lines.map fun line => Fintype.card {run : Run line // run.token = token}).sum

theorem tokenCount_eq_runCount (lines : List (List Char)) {token : List Char}
    (filled : token ≠ []) : tokenCount lines token = runCount lines token := by
  induction lines with
  | nil => rfl
  | cons line lines ih =>
      rw [tokenCount, tokens, List.flatMap_cons, List.count_append,
        count_lineTokens_eq_card line filled, runCount, List.map_cons, List.sum_cons]
      exact congrArg _ ih

theorem lookup_ofList (count : List Char → Nat) (listed : List (List Char)) (token : List Char) :
    (listed.map fun other => (String.ofList other, count other)).lookup (String.ofList token) =
      if token ∈ listed then some (count token) else none := by
  induction listed with
  | nil => rfl
  | cons first later ih =>
      by_cases same : token = first
      · simp [same]
      · have other : (String.ofList token == String.ofList first) = false :=
          beq_false_of_ne fun equal => same (String.ofList_injective equal)
        simp [List.lookup_cons, other, ih, same]

theorem lookup_tokenCounts (lines : List (List Char)) (token : List Char) :
    ((tokenCounts lines).lookup (String.ofList token)).getD 0 = tokenCount lines token := by
  rw [tokenCounts, lookup_ofList, tokenCount]
  simp only [List.mem_mergeSort, List.mem_eraseDups]
  split
  · rfl
  · next absent => exact (List.count_eq_zero.mpr absent).symm

/-- The table of tokens gives every token the number of runs that come down to it. The scan of a
line meets all its runs in order and finds at most one name in each. -/
theorem tokenCounts_number_runs (lines : List (List Char)) (token : List Char)
    (filled : token ≠ []) :
    ((tokenCounts lines).lookup (String.ofList token)).getD 0 = runCount lines token ∧
      tokenCount lines token = runCount lines token ∧
      ∀ line ∈ lines, ∃ listed : List (Run line), (∀ run, run ∈ listed) ∧
        listed.Pairwise (fun first second => first.stop < second.start) ∧
        (Pattern.part 1 Name.pattern).scan line = listed.filterMap Run.found? := by
  refine ⟨?_, tokenCount_eq_runCount lines filled, fun line _ => ?_⟩
  · rw [lookup_tokenCounts, tokenCount_eq_runCount lines filled]
  · exact ⟨runs line, mem_runs, runs_pairwise line, scan_runs line⟩

theorem tokenCounts_number_runs_inside_words :
    "user".toList ≠ [] ∧
      ((tokenCounts ["$user = 9user + user_id".toList, "éuser, $$user9".toList]).lookup
        "user").getD 0 = 3 ∧
      tokenCount ["$user = 9user + user_id".toList, "éuser, $$user9".toList] "user".toList = 3 := by
  have filled : "user".toList ≠ [] := by decide
  have counted : runCount ["$user = 9user + user_id".toList, "éuser, $$user9".toList]
      "user".toList = 3 := by
    decide +kernel
  obtain ⟨table, number, -⟩ := tokenCounts_number_runs
    ["$user = 9user + user_id".toList, "éuser, $$user9".toList] "user".toList filled
  rw [String.ofList_toList] at table
  exact ⟨filled, table.trans counted, number.trans counted⟩

end Count

end CodeSurvey.Source
