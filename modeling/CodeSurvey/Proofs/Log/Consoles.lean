import CodeSurvey.Log.Setup
import Mathlib.Data.List.Induction

/-!
Console handlers over a history of uses. A setup that fails at its log file has attached a console handler
already, yet leaves logging as not set up, so the next use attaches another one. Every handler that is
attached beside an earlier one comes from there, and only a forced setup takes the others away.
-/

set_option autoImplicit false

namespace CodeSurvey.Log.Setup

def consoles (s : Setup) : Nat :=
  s.handlers.countP Handler.isConsole

/-- A use of logging: asking for a logger, or a setup at a time when `blocked` tells why a log file
cannot be opened. -/
inductive Use where
  | get (name : String)
  | setup (level : Level) (file : Option String) (force : Bool)
      (blocked : String → Option PathFault)

namespace Use

/-- What a use does, whether it fails or not. -/
def apply : Use → Setup → Setup
  | get name, s => s.get name
  | setup level file force blocked, s => (s.setup blocked level file force).2

/-- A setup that is made even if logging is set up. -/
def isForced : Use → Bool
  | get _ => false
  | setup _ _ force _ => force

/-- A setup whose log file cannot be opened. -/
def fails : Use → Bool
  | get _ => false
  | setup _ file _ blocked => (file.bind blocked).isSome

end Use

def behind (uses : List Use) : Setup :=
  uses.foldl (fun s use => use.apply s) fresh

section Attach

variable (blocked : String → Option PathFault) (level : Level) (file : Option String) (s : Setup)

theorem attach_initialized :
    (attach blocked level file s).2.initialized =
      (s.initialized || (file.bind blocked).isNone) := by
  cases file with
  | none => simp [attach]
  | some path => cases fault : blocked path <;> simp [attach, fault]

theorem attach_consoles : consoles (attach blocked level file s).2 = consoles s + 1 := by
  cases file with
  | none => simp [attach, consoles, Handler.isConsole]
  | some path =>
      cases fault : blocked path <;>
        simp [attach, consoles, fault, List.countP_cons, Handler.isConsole]

theorem setup_initialized (force : Bool) :
    (setup blocked level file force s).2.initialized =
      (s.initialized || (file.bind blocked).isNone) := by
  unfold setup
  split
  · rename_i done
    rw [done.1, Bool.true_or]
  · rw [attach_initialized]
    split <;> rfl

theorem setup_consoles (force : Bool) :
    consoles (setup blocked level file force s).2 =
      if force then 1 else if s.initialized then consoles s else consoles s + 1 := by
  unfold setup
  cases force with
  | true =>
      simp only [Bool.not_true, Bool.false_eq_true, and_false, ↓reduceIte, attach_consoles]
      rfl
  | false =>
      simp only [Bool.not_false, and_true, Bool.false_eq_true, ↓reduceIte]
      split
      · rfl
      · rw [attach_consoles]

end Attach

/-- Asking for a logger is a plain setup, but for the name that is kept. -/
theorem exists_get_eq (name : String) (s : Setup) :
    ∃ names, s.get name =
      { (s.setup (fun _ => none) .warning none false).2 with loggers := names } := by
  have same : (if s.initialized then s else (s.setup (fun _ => none) .warning none false).2) =
      (s.setup (fun _ => none) .warning none false).2 := by
    split
    · rename_i done
      rw [setup, if_pos ⟨done, rfl⟩]
    · rfl
  unfold get
  rw [same]
  dsimp only
  split
  · exact ⟨_, rfl⟩
  · exact ⟨_, rfl⟩

theorem get_initialized (name : String) (s : Setup) : (s.get name).initialized = true := by
  obtain ⟨names, same⟩ := exists_get_eq name s
  rw [same]
  change (s.setup _ _ _ _).2.initialized = true
  rw [setup_initialized]
  simp

theorem get_consoles (name : String) (s : Setup) :
    consoles (s.get name) = if s.initialized then consoles s else consoles s + 1 := by
  obtain ⟨names, same⟩ := exists_get_eq name s
  rw [same]
  exact setup_consoles (fun _ => none) .warning none s false

namespace Use

theorem apply_initialized (use : Use) (s : Setup) :
    (use.apply s).initialized = (s.initialized || !use.fails) := by
  cases use with
  | get name => simp [apply, fails, get_initialized]
  | setup level file force blocked =>
      rw [fails, Option.not_isSome]
      exact setup_initialized blocked level file s force

theorem apply_consoles (use : Use) (s : Setup) :
    consoles (use.apply s) =
      if use.isForced then 1 else if s.initialized then consoles s else consoles s + 1 := by
  cases use with
  | get name => simp [apply, isForced, get_consoles]
  | setup level file force blocked => exact setup_consoles blocked level file s force

end Use

theorem behind_concat (uses : List Use) (use : Use) :
    behind (uses ++ [use]) = use.apply (behind uses) := by
  rw [behind, List.foldl_append]
  rfl

/-- Logging is set up as soon as one use has not failed. -/
theorem behind_initialized (uses : List Use) :
    (behind uses).initialized = uses.any fun use => !use.fails := by
  induction uses using List.reverseRecOn with
  | nil => rfl
  | append_singleton uses use ih =>
      rw [behind_concat, Use.apply_initialized, ih, List.any_append, List.any_cons, List.any_nil,
        Bool.or_false]

theorem consoles_pos {uses : List Use} (used : uses ≠ []) : 0 < consoles (behind uses) := by
  induction uses using List.reverseRecOn with
  | nil => exact absurd rfl used
  | append_singleton uses use ih =>
      rw [behind_concat, Use.apply_consoles]
      split
      · exact Nat.one_pos
      · split
        · rename_i done
          apply ih
          rintro rfl
          cases done
        · exact Nat.succ_pos _

/-- Some uses, all of which failed, came before one that is not forced, and none is forced from there
on. -/
def Doubles (uses : List Use) : Prop :=
  ∃ failed use later, uses = failed ++ use :: later ∧ failed ≠ [] ∧
    (∀ other ∈ failed, other.fails = true) ∧ ∀ other ∈ use :: later, other.isForced = false

/-- Where a history with one more use is split: before that use, or earlier. -/
theorem concat_split {uses failed later : List Use} {use first : Use}
    (split : uses ++ [use] = failed ++ first :: later) :
    (failed = uses ∧ first = use ∧ later = []) ∨
      ∃ before, later = before ++ [use] ∧ uses = failed ++ first :: before := by
  rcases List.eq_nil_or_concat later with rfl | ⟨before, last, rfl⟩
  · obtain ⟨same, ends⟩ := List.append_inj' split rfl
    exact .inl ⟨same.symm, (List.singleton_inj.mp ends).symm, rfl⟩
  · rw [List.concat_eq_append, ← List.cons_append, ← List.append_assoc] at split
    obtain ⟨same, ends⟩ := List.append_inj' split rfl
    rw [List.concat_eq_append, ← List.singleton_inj.mp ends]
    exact .inr ⟨before, rfl, same⟩

theorem not_doubles_of_isForced {uses : List Use} {use : Use} (forced : use.isForced = true) :
    ¬ Doubles (uses ++ [use]) := by
  rintro ⟨failed, first, later, split, -, -, plain⟩
  have last : use ∈ first :: later := by
    rcases concat_split split with ⟨-, rfl, -⟩ | ⟨before, rfl, -⟩
    · exact List.mem_cons_self
    · simp
  rw [plain use last] at forced
  cases forced

theorem doubles_concat_iff {uses : List Use} {use : Use} (plain : use.isForced = false) :
    Doubles (uses ++ [use]) ↔
      Doubles uses ∨ uses ≠ [] ∧ ∀ other ∈ uses, other.fails = true := by
  constructor
  · rintro ⟨failed, first, later, split, used, failing, unforced⟩
    rcases concat_split split with ⟨rfl, -, -⟩ | ⟨before, rfl, rfl⟩
    · exact .inr ⟨used, failing⟩
    · refine .inl ⟨failed, first, before, rfl, used, failing, fun other member => ?_⟩
      apply unforced other
      rw [← List.cons_append]
      exact List.mem_append_left _ member
  · rintro (⟨failed, first, later, rfl, used, failing, unforced⟩ | ⟨used, failing⟩)
    · refine ⟨failed, first, later ++ [use], by simp, used, failing, fun other member => ?_⟩
      rw [← List.cons_append] at member
      rcases List.mem_append.mp member with before | last
      · exact unforced other before
      · rw [List.mem_singleton.mp last]
        exact plain
    · exact ⟨uses, use, [], rfl, used, failing, by simpa using plain⟩

theorem consoles_behind_le_one_iff (uses : List Use) :
    consoles (behind uses) ≤ 1 ↔ ¬ Doubles uses := by
  induction uses using List.reverseRecOn with
  | nil =>
      have none : ¬ Doubles [] := by
        rintro ⟨failed, first, later, split, -⟩
        simp at split
      exact iff_of_true (Nat.zero_le 1) none
  | append_singleton uses use ih =>
      rw [behind_concat, Use.apply_consoles]
      cases forced : use.isForced with
      | true => exact iff_of_true (Nat.le_refl 1) (not_doubles_of_isForced forced)
      | false =>
          rw [doubles_concat_iff forced, not_or, if_neg Bool.false_ne_true, behind_initialized]
          by_cases failing : ∀ other ∈ uses, other.fails = true
          · -- Nothing has been set up, so this use attaches a handler beside those of the failed ones.
            have idle : (uses.any fun other => !other.fails) = false := by
              simpa [List.any_eq_false] using failing
            rw [idle, if_neg Bool.false_ne_true]
            by_cases used : uses = []
            · subst used
              exact iff_of_true (Nat.le_refl 1) ⟨ih.mp (Nat.zero_le 1), fun earlier => earlier.1 rfl⟩
            · have more := consoles_pos used
              exact iff_of_false (by omega) fun single => single.2 ⟨used, failing⟩
          · have done : (uses.any fun other => !other.fails) = true := by
              simpa using failing
            rw [done, if_pos rfl, ih]
            exact ⟨fun single => ⟨single, fun earlier => failing earlier.2⟩, And.left⟩

/-- A line is printed once for every console handler that takes records of its level. -/
theorem deliver_toList (level : Level) (line : String) (handlers : List Handler) (s : Setup) :
    (deliver level line handlers s).1.toList = (List.replicate (handlers.countP fun handler =>
      handler.isConsole && decide (handler.level.rank ≤ level.rank)) line.toList).flatten := by
  induction handlers generalizing s with
  | nil => rfl
  | cons handler rest ih =>
      unfold deliver
      split
      · rename_i low
        rw [ih, List.countP_cons_of_neg (by simp [Int.not_le.mpr low])]
      · rename_i high
        have taken := Int.not_lt.mp high
        cases handler with
        | console least =>
            rw [List.countP_cons_of_pos (by simpa [Handler.isConsole] using taken),
              List.replicate_succ, List.flatten_cons, ← ih s, ← String.toList_append]
        | file path least =>
            rw [List.countP_cons_of_neg (by simp [Handler.isConsole])]
            exact ih _

theorem emit_of_consoles_le_one {s : Setup} (single : consoles s ≤ 1) (time : String)
    (record : Record) :
    (s.emit time record).1 = "" ∨ (s.emit time record).1 = record.line time := by
  unfold emit
  split
  · exact .inl rfl
  · have printed := deliver_toList record.level (record.line time) s.handlers s
    have few : (s.handlers.countP fun handler =>
        handler.isConsole && decide (handler.level.rank ≤ record.level.rank)) ≤ 1 := by
      refine Nat.le_trans (List.countP_mono_left fun handler _ taken => ?_) single
      exact (Bool.and_eq_true_iff.mp taken).1
    rcases Nat.le_one_iff_eq_zero_or_eq_one.mp few with zero | one
    · left
      rw [zero] at printed
      exact String.toList_inj.mp printed
    · right
      rw [one] at printed
      exact String.toList_inj.mp (by simpa using printed)

/-- After any uses there is at most one console handler, unless uses that all failed were followed by one
that was not forced and no forced setup has come since. Where there is at most one, no record is printed
twice. -/
theorem single_console_iff (uses : List Use) :
    (consoles (behind uses) ≤ 1 ↔ ¬ Doubles uses) ∧
      (¬ Doubles uses → ∀ time record,
        ((behind uses).emit time record).1 = "" ∨
          ((behind uses).emit time record).1 = record.line time) := by
  refine ⟨consoles_behind_le_one_iff uses, fun sound time record => ?_⟩
  exact emit_of_consoles_le_one ((consoles_behind_le_one_iff uses).mpr sound) time record

/-- A setup fails and a logger is asked for, which gives two handlers; a forced setup, though it fails as
well, leaves its own only. -/
theorem single_console_behind_forced_setup :
    let uses := [Use.setup .debug (some "logs") false fun _ => some .isADirectory, .get "a",
      .setup ⟨15⟩ (some "logs") true fun _ => some .isADirectory]
    ¬ Doubles uses ∧ consoles (behind uses) ≤ 1 ∧
      (((behind uses).emit "now" ⟨.info, "crossfile.a", "m"⟩).1 = "" ∨
        ((behind uses).emit "now" ⟨.info, "crossfile.a", "m"⟩).1 =
          Record.line "now" ⟨.info, "crossfile.a", "m"⟩) := by
  intro uses
  have single : consoles (behind uses) ≤ 1 := by decide +kernel
  have sound := (single_console_iff uses).1.mp single
  exact ⟨sound, single, (single_console_iff uses).2 sound _ _⟩

/-- Two handlers print a record twice after a setup that failed at its log file. -/
theorem console_doubled_behind_failed_setup :
    let uses := [Use.setup .warning (some ".") false (openFault? []), .get "a"]
    consoles (behind uses) = 2 ∧
      ((behind uses).emit "TIME" ⟨.warning, "crossfile.a", "m"⟩).1 =
        "TIME | WARNING  | crossfile.a | m\nTIME | WARNING  | crossfile.a | m\n" := by
  decide +kernel

end CodeSurvey.Log.Setup
