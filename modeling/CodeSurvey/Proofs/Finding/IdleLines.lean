import CodeSurvey.Finding.Redundancy
import CodeSurvey.Proofs.Pattern.Reading
import Mathlib.Data.List.Forall2

/-!
Lines that are blank or hold a comment only. The checks of an indented language never report one and
never look at one, so such lines may come and go: the redundant lines stay the same, and only their
numbers move along.
-/

set_option autoImplicit false

namespace CodeSurvey.Redundant

open Text Pattern

/-- A line without any character but blanks, or whose first other character begins a comment. -/
def IsIdle (line : List Char) : Prop :=
  (∀ c ∈ line, isBlank c = true) ∨
    ∃ indent rest, line = indent ++ '#' :: rest ∧ ∀ c ∈ indent, isBlank c = true

theorem trimStart_of_first {gap rest : List Char} {x : Char} (blank : ∀ c ∈ gap, isBlank c = true)
    (solid : isBlank x = false) : trimStart (gap ++ x :: rest) = x :: rest := by
  rw [trimStart, List.dropWhile_append_of_pos blank, List.dropWhile_cons_of_neg (by simp [solid])]

theorem IsIdle.first {gap rest : List Char} {x : Char} (idle : IsIdle (gap ++ x :: rest))
    (blank : ∀ c ∈ gap, isBlank c = true) (solid : isBlank x = false) : x = '#' := by
  rcases idle with all | ⟨indent, others, same, before⟩
  · have inside := all x (List.mem_append_right gap List.mem_cons_self)
    rw [solid] at inside
    cases inside
  · have both := congrArg trimStart same
    rw [trimStart_of_first blank solid, trimStart_of_first before (by decide)] at both
    exact (List.cons.inj both).1

theorem isStatement_eq_false_iff (line : List Char) : isStatement line = false ↔ IsIdle line := by
  constructor
  · intro still
    rw [isStatement, Bool.and_eq_false_iff, Bool.not_eq_false', bne_eq_false_iff_eq] at still
    rcases still with blank | mark
    · exact .inl (List.all_eq_true.mp blank)
    · obtain ⟨rest, first⟩ := List.head?_eq_some_iff.mp mark
      refine .inr ⟨line.takeWhile isBlank, rest, ?_, List.all_eq_true.mp List.all_takeWhile⟩
      rw [← first]
      exact List.takeWhile_append_dropWhile.symm
  · rintro (blank | ⟨indent, rest, rfl, blank⟩)
    · have whole : isBlankText line = true := List.all_eq_true.mpr blank
      rw [isStatement, whole]
      rfl
    · rw [isStatement, trimStart_of_first blank (by decide)]
      simp

/-- A check that holds of no idle line. -/
def Quiet (rule : RedundancyRule) : Prop :=
  ∀ before line, IsIdle line → rule.applies before line = false

theorem condition_opens (behind : List Pattern) :
    OpensWith (all (.optional (.text "el") :: .text "if" :: behind)) fun x => x = 'e' ∨ x = 'i' := by
  refine .optional_seq ?_ (.seq ?_)
  · intro c later member
    obtain ⟨x, rest, follows, same⟩ := OpensWith.text rfl c later member
    exact ⟨x, rest, follows, .inl same⟩
  · intro c later member
    obtain ⟨x, rest, follows, same⟩ := OpensWith.text rfl c later member
    exact ⟨x, rest, follows, .inr same⟩

theorem rest_of_textStart {line skipped : List Char} {start begun : Cursor}
    (moves : (Cursor.start line).MovesOver skipped start) (member : begun ∈ Pattern.textStart.ends start) :
    begun.rest = line := by
  rw [eq_of_mem_ends_textStart member]
  rw [ends] at member
  split at member
  · rename_i first
    have none : skipped.getLast? = none := by
      have last := moves.last
      rw [Option.isNone_iff_eq_none.mp first, Cursor.start, Option.or_none] at last
      exact last.symm
    have whole := moves.rest
    rw [List.getLast?_eq_none_iff.mp none] at whole
    exact whole.symm
  · cases member

/-- A constant condition at the beginning of a line has a letter as its first character that is not
blank. -/
theorem plainConstant_occursIn {line : List Char} (word : String) (idle : IsIdle line) :
    (plainConstant word).occursIn line = false := by
  rw [occursIn, Option.isSome_eq_false_iff, Option.isNone_iff_eq_none,
    Option.eq_none_iff_forall_ne_some]
  intro found searched
  obtain ⟨skipped, start, moves, matched⟩ := exists_of_searchFrom searched
  obtain ⟨stop, member, -⟩ := exists_of_matchAt matched
  obtain ⟨begun, atStart, further⟩ := List.mem_flatMap.mp member
  obtain ⟨behind, gap, condition⟩ := List.mem_flatMap.mp further
  obtain ⟨indent, indented, blank, -, -⟩ := Cursor.mem_spanEnds gap
  obtain ⟨x, rest, follows, letter⟩ := condition_opens _ behind stop condition
  rw [← rest_of_textStart moves atStart, indented.rest, follows] at idle
  have solid : isBlank x = false ∧ x ≠ '#' := by
    rcases letter with rfl | rfl <;> decide
  exact solid.2 (idle.first blank solid.1)

theorem dropEndWhile_prefix (drop : Char → Bool) (text : List Char) :
    dropEndWhile drop text <+: text := by
  have behind := (List.dropWhile_suffix drop (l := text.reverse)).reverse
  rwa [List.reverse_reverse] at behind

theorem needlessPass_of_isIdle {line : List Char} (before : Option (List Char))
    (idle : IsIdle line) : needlessPass before line = false := by
  have other : trim line ≠ "pass".toList := by
    intro same
    obtain ⟨rest, whole⟩ := dropEndWhile_prefix isBlank (trimStart line)
    change trim line ++ rest = trimStart line at whole
    rw [same] at whole
    rw [← List.takeWhile_append_dropWhile (p := isBlank) (l := line)] at idle
    change IsIdle (_ ++ trimStart line) at idle
    rw [← whole] at idle
    have mark := idle.first (List.all_eq_true.mp List.all_takeWhile) (by decide)
    cases mark
  rw [needlessPass, beq_false_of_ne other, Bool.false_and]

theorem quiet_rules {rule : RedundancyRule} (member : rule ∈ rules .python) : Quiet rule := by
  intro before line idle
  simp only [rules, List.mem_cons, List.not_mem_nil, or_false] at member
  rcases member with rfl | rfl | rfl
  · exact plainConstant_occursIn "True" idle
  · exact plainConstant_occursIn "False" idle
  · exact needlessPass_of_isIdle before idle

/-- A line of two texts: in both, only in the new one, or only in the old one. -/
inductive LineEdit where
  | kept (line : List Char)
  | added (line : List Char)
  | dropped (line : List Char)

namespace LineEdit

def old? : LineEdit → Option (List Char)
  | kept line => some line
  | added _ => none
  | dropped line => some line

def new? : LineEdit → Option (List Char)
  | kept line => some line
  | added line => some line
  | dropped _ => none

/-- Only idle lines come and go. -/
def IsPassive : LineEdit → Prop
  | kept _ => True
  | added line => IsIdle line
  | dropped line => IsIdle line

end LineEdit

def oldLines (edits : List LineEdit) : List (List Char) :=
  edits.filterMap LineEdit.old?

def newLines (edits : List LineEdit) : List (List Char) :=
  edits.filterMap LineEdit.new?

theorem oldLines_cons (edit : LineEdit) (edits : List LineEdit) :
    oldLines (edit :: edits) = edit.old?.toList ++ oldLines edits := by
  rw [oldLines, List.filterMap_cons]
  cases edit <;> rfl

theorem newLines_cons (edit : LineEdit) (edits : List LineEdit) :
    newLines (edit :: edits) = edit.new?.toList ++ newLines edits := by
  rw [newLines, List.filterMap_cons]
  cases edit <;> rfl

theorem oldLines_append (front back : List LineEdit) :
    oldLines (front ++ back) = oldLines front ++ oldLines back :=
  List.filterMap_append

theorem newLines_append (front back : List LineEdit) :
    newLines (front ++ back) = newLines front ++ newLines back :=
  List.filterMap_append

/-- Two findings that differ only in the number of their line, which both texts have. `old` and `new`
are the numbers that the first lines of the two texts have. -/
structure Follows (edits : List LineEdit) (old new : Nat) (f g : Redundant) : Prop where
  kind : f.kind = g.kind
  file : f.file = g.file
  message : f.message = g.message
  suggestion : f.suggestion = g.suggestion
  line : ∃ front line rest, edits = front ++ .kept line :: rest ∧
    f.line = old + (oldLines front).length ∧ g.line = new + (newLines front).length

theorem Follows.behind {edits : List LineEdit} {old new : Nat} {f g : Redundant} (edit : LineEdit)
    (follows : Follows edits (old + edit.old?.toList.length) (new + edit.new?.toList.length) f g) :
    Follows (edit :: edits) old new f g := by
  obtain ⟨front, line, rest, split, before, after⟩ := follows.line
  refine { follows with line := ⟨edit :: front, line, rest, by rw [split, List.cons_append], ?_, ?_⟩ }
  · rw [before, oldLines_cons, List.length_append]
    omega
  · rw [after, newLines_cons, List.length_append]
    omega

section Lines

variable {checks : List RedundancyRule} {path : String} {before : Option (List Char)}

theorem detectFrom_of_isIdle (quiet : ∀ rule ∈ checks, Quiet rule) {line : List Char}
    (idle : IsIdle line) (number : Nat) (rest : List (List Char)) :
    detectFrom checks path before number (line :: rest) =
      detectFrom checks path before (number + 1) rest := by
  have silent : (checks.filter fun rule => rule.applies before line) = [] := by
    apply List.filter_eq_nil_iff.mpr
    intro rule member
    rw [quiet rule member before line idle]
    exact Bool.false_ne_true
  rw [detectFrom, silent, (isStatement_eq_false_iff line).mpr idle, List.map_nil, List.nil_append]
  rfl

/-- The walk through the old lines and the one through the new lines have seen the same last statement
whenever they stand at the same line, so they report the same there. -/
theorem detectFrom_follows (quiet : ∀ rule ∈ checks, Quiet rule) {edits : List LineEdit}
    (passive : ∀ edit ∈ edits, edit.IsPassive) (before : Option (List Char)) (old new : Nat) :
    List.Forall₂ (Follows edits old new) (detectFrom checks path before old (oldLines edits))
      (detectFrom checks path before new (newLines edits)) := by
  induction edits generalizing before old new with
  | nil => exact .nil
  | cons edit edits ih =>
      have idle := passive edit List.mem_cons_self
      have later := ih fun other member => passive other (List.mem_cons_of_mem _ member)
      cases edit with
      | kept line =>
          rw [oldLines_cons, LineEdit.old?, newLines_cons, LineEdit.new?, Option.toList_some,
            List.singleton_append, List.singleton_append, detectFrom, detectFrom]
          apply List.rel_append
          · rw [List.forall₂_map_left_iff, List.forall₂_map_right_iff, List.forall₂_same]
            intro rule _
            exact ⟨rfl, rfl, rfl, rfl, [], line, edits, rfl, by simp [oldLines], by simp [newLines]⟩
          · exact (later _ (old + 1) (new + 1)).imp fun f g => Follows.behind (.kept line)
      | added line =>
          rw [newLines_cons, LineEdit.new?, Option.toList_some, List.singleton_append,
            detectFrom_of_isIdle quiet idle, oldLines_cons, LineEdit.old?, Option.toList_none,
            List.nil_append]
          exact (later before old (new + 1)).imp fun f g => Follows.behind (.added line)
      | dropped line =>
          rw [oldLines_cons, LineEdit.old?, Option.toList_some, List.singleton_append,
            detectFrom_of_isIdle quiet idle, newLines_cons, LineEdit.new?, Option.toList_none,
            List.nil_append]
          exact (later before (old + 1) new).imp fun f g => Follows.behind (.dropped line)

/-- A reported line is not idle. -/
theorem exists_line_of_mem_detectFrom (quiet : ∀ rule ∈ checks, Quiet rule) {number : Nat}
    {lines : List (List Char)} {r : Redundant}
    (member : r ∈ detectFrom checks path before number lines) :
    ∃ front line rest, lines = front ++ line :: rest ∧ ¬ IsIdle line ∧
      r.line = number + front.length := by
  induction lines generalizing before number with
  | nil => cases member
  | cons line lines ih =>
      by_cases idle : IsIdle line
      · rw [detectFrom_of_isIdle quiet idle] at member
        obtain ⟨front, found, rest, split, busy, place⟩ := ih member
        refine ⟨line :: front, found, rest, by rw [split, List.cons_append], busy, ?_⟩
        rw [place, List.length_cons]
        omega
      · rw [detectFrom, List.mem_append] at member
        rcases member with here | later
        · obtain ⟨rule, -, rfl⟩ := List.mem_map.mp here
          exact ⟨[], line, lines, rfl, idle, (Int.add_zero _).symm⟩
        · obtain ⟨front, found, rest, split, busy, place⟩ := ih later
          refine ⟨line :: front, found, rest, by rw [split, List.cons_append], busy, ?_⟩
          rw [place, List.length_cons]
          omega

theorem line_ne_of_isIdle (quiet : ∀ rule ∈ checks, Quiet rule) {number : Nat}
    {front rest : List (List Char)} {line : List Char} (idle : IsIdle line) {r : Redundant}
    (member : r ∈ detectFrom checks path before number (front ++ line :: rest)) :
    r.line ≠ number + front.length := by
  intro place
  obtain ⟨other, found, behind, split, busy, same⟩ := exists_line_of_mem_detectFrom quiet member
  have length : front.length = other.length := by omega
  have heads := (List.append_inj split length).2
  rw [(List.cons.inj heads).1] at idle
  exact busy idle

end Lines

/-- Where idle lines are added to a file of an indented language or taken out of it, the same lines are
redundant for the same reasons as before, each under its new number. No added line is reported, and none
that was taken out had been. -/
theorem detect_same_around_idle_lines (file : SourceFile) (text : String) (edits : List LineEdit)
    (indented : file.family = some .python) (old : file.lines = oldLines edits)
    (new : Text.lines text.toList = newLines edits)
    (passive : ∀ edit ∈ edits, edit.IsPassive) :
    List.Forall₂ (Follows edits 1 1) (detect file) (detect { file with content := text }) ∧
    (∀ front line rest, edits = front ++ .added line :: rest →
      ∀ r ∈ detect { file with content := text }, r.line ≠ 1 + (newLines front).length) ∧
    (∀ front line rest, edits = front ++ .dropped line :: rest →
      ∀ r ∈ detect file, r.line ≠ 1 + (oldLines front).length) := by
  have quiet : ∀ rule ∈ rules .python, Quiet rule := fun _ => quiet_rules
  have before : detect file = detectFrom (rules .python) file.path none 1 (oldLines edits) := by
    rw [detect, indented, old]
    rfl
  have after : detect { file with content := text } =
      detectFrom (rules .python) file.path none 1 (newLines edits) := by
    rw [← new]
    change (Option.elim file.family _ _) = _
    rw [indented]
    rfl
  rw [before, after]
  refine ⟨detectFrom_follows quiet passive none 1 1, ?_, ?_⟩
  · intro front line rest split r member
    have idle : IsIdle line := passive (.added line) (by rw [split]; simp)
    rw [split, newLines_append, newLines_cons] at member
    exact line_ne_of_isIdle quiet idle member
  · intro front line rest split r member
    have idle : IsIdle line := passive (.dropped line) (by rw [split]; simp)
    rw [split, oldLines_append, oldLines_cons] at member
    exact line_ne_of_isIdle quiet idle member

/-- A comment is taken out, and a blank line and a less indented comment come between a statement and the
`pass` behind it. -/
theorem detect_same_around_idle_lines_of_moved_comments :
    let file : SourceFile := ⟨"a.py", "def f():\n  # todo\n  x = 1\n  pass\nif True:\n  y = 2", "py"⟩
    let text := "def f():\n  x = 1\n\n # done\n  pass\nif True:\n  y = 2"
    let edits : List LineEdit := [.kept "def f():".toList, .dropped "  # todo".toList,
      .kept "  x = 1".toList, .added [], .added " # done".toList, .kept "  pass".toList,
      .kept "if True:".toList, .kept "  y = 2".toList]
    file.family = some .python ∧ file.lines = oldLines edits ∧
      Text.lines text.toList = newLines edits ∧ (∀ edit ∈ edits, edit.IsPassive) ∧
      (detect file).map (·.line) = [4, 5] ∧
      (detect { file with content := text }).map (·.line) = [5, 6] ∧
      List.Forall₂ (Follows edits 1 1) (detect file) (detect { file with content := text }) := by
  intro file text edits
  have indented : file.family = some .python := by decide +kernel
  have old : file.lines = oldLines edits := by decide +kernel
  have new : Text.lines text.toList = newLines edits := by decide +kernel
  have passive : ∀ edit ∈ edits, edit.IsPassive := by
    simp only [edits, List.forall_mem_cons, LineEdit.IsPassive, ← isStatement_eq_false_iff, true_and]
    exact ⟨by decide, by decide, by decide, fun _ none => absurd none List.not_mem_nil⟩
  exact ⟨indented, old, new, passive, by decide +kernel, by decide +kernel,
    (detect_same_around_idle_lines file text edits indented old new passive).1⟩

end CodeSurvey.Redundant
