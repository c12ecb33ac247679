import CodeSurvey.Proofs.Pattern.Inversion
import CodeSurvey.Proofs.Text.Classes
import CodeSurvey.Proofs.Text.Parts

/-!
Patterns that stay on a line: they take no newline and look no further than the ends of their line. Such a
pattern matches at a place of a text just as it matches at the same place of the line alone, and if it
takes at least one character, scanning a text is scanning its lines one after another.
-/

set_option autoImplicit false

namespace CodeSurvey

open Text

/-- What stands around a line of a text: so many characters, of which the last is a newline, and what
follows, which begins with a newline. -/
structure LineFrame where
  offset : Nat
  before : Option Char
  behind : List Char
  begins : before.all (· == '\n') = true
  ends : behind.head?.all (· == '\n') = true

namespace LineFrame

variable (frame : LineFrame)

/-- The place in the text that a place on the line is. -/
def place (c : Cursor) : Cursor :=
  ⟨frame.offset + c.pos, c.last.or frame.before, c.rest ++ frame.behind, c.parts⟩

theorem pos_place_lt (c later : Cursor) :
    (frame.place c).pos < (frame.place later).pos ↔ c.pos < later.pos := by
  show frame.offset + c.pos < frame.offset + later.pos ↔ c.pos < later.pos
  omega

theorem isWord_before : frame.before.any isWord = false := by
  have newline := frame.begins
  cases before : frame.before with
  | none => rfl
  | some x =>
      rw [before] at newline
      have same : x = '\n' := by simpa using newline
      rw [same]
      exact isWord_newline

/-- Behind the line comes no character of a kind without newlines. -/
theorem behind_cases {allowed : Char → Bool} (bounded : allowed '\n' = false) :
    frame.behind = [] ∨ ∃ x more, frame.behind = x :: more ∧ allowed x = false := by
  have newline := frame.ends
  cases behind : frame.behind with
  | nil => exact .inl rfl
  | cons x more =>
      rw [behind] at newline
      have same : x = '\n' := by simpa using newline
      exact .inr ⟨x, more, rfl, by rw [same, bounded]⟩

theorem atEdge_place (c : Cursor) : (frame.place c).atEdge = c.atEdge := by
  have left : (c.last.or frame.before).any isWord = c.last.any isWord := by
    cases c.last with
    | none => exact frame.isWord_before
    | some x => rfl
  have right : (c.rest ++ frame.behind).head?.any isWord = c.rest.head?.any isWord := by
    cases c.rest with
    | nil =>
        rcases frame.behind_cases isWord_newline with none | ⟨x, more, follows, other⟩
        · rw [none]
          rfl
        · rw [follows]
          exact other
    | cons x rest => rfl
  rw [Cursor.atEdge, Cursor.atEdge, place, left, right]

theorem lineStart_place (c : Cursor) :
    (frame.place c).last.all (· == '\n') = c.last.all (· == '\n') := by
  rw [place]
  cases c.last with
  | none => exact frame.begins
  | some x => rfl

theorem reach_place {allowed : Char → Bool} (bounded : allowed '\n' = false)
    (parts : List (Nat × List Char)) (rest : List Char) (pos : Nat) (last : Option Char)
    (shorter : List Cursor) :
    Cursor.reach allowed parts (rest ++ frame.behind) (frame.offset + pos) (last.or frame.before)
        (shorter.map frame.place) =
      (Cursor.reach allowed parts rest pos last shorter).map frame.place := by
  induction rest generalizing pos last shorter with
  | nil =>
      rcases frame.behind_cases bounded with none | ⟨x, more, follows, other⟩
      · rw [Cursor.reach, List.map_cons, place, List.nil_append, none]
        rfl
      · rw [Cursor.reach, List.map_cons, place, List.nil_append, follows, Cursor.reach, other,
          if_neg Bool.false_ne_true]
  | cons x rest ih =>
      rw [List.cons_append, Cursor.reach, Cursor.reach]
      split
      · exact ih (pos + 1) (some x) (⟨pos, last, x :: rest, parts⟩ :: shorter)
      · rfl

theorem spanEnds_place {allowed : Char → Bool} (bounded : allowed '\n' = false) (least : Nat)
    (greedy : Bool) (c : Cursor) :
    (frame.place c).spanEnds allowed least greedy = (c.spanEnds allowed least greedy).map frame.place := by
  have places := frame.reach_place bounded c.parts c.rest c.pos c.last []
  rw [List.map_nil] at places
  simp only [Cursor.spanEnds, place]
  rw [places, List.length_map, ← List.map_take, ← List.map_reverse]
  split <;> rfl

theorem upTo_place {c later : Cursor} {taken : List Char} (moves : c.MovesOver taken later) :
    (frame.place c).upTo (frame.place later) = c.upTo later := by
  have whole : (frame.place c).MovesOver taken (frame.place later) := by
    refine ⟨?_, ?_, ?_⟩
    · simp only [place, moves.rest, List.append_assoc]
    · simp only [place, moves.pos, Nat.add_assoc]
    · simp only [place, moves.last, Option.or_assoc]
  rw [whole.upTo_eq, moves.upTo_eq]

end LineFrame

theorem Cursor.MovesOver.rest_length {c later : Cursor} {taken : List Char}
    (moves : c.MovesOver taken later) : c.rest.length = taken.length + later.rest.length := by
  rw [moves.rest, List.length_append]

namespace Pattern

variable {p : Pattern}

/-- Whether a pattern takes no newline and looks no further than the ends of its line. -/
def staysInLine : Pattern → Bool
  | .empty | .edge | .lineStart => true
  | .one allowed | .span allowed _ _ => !allowed '\n'
  | .seq first second | .alt first second => first.staysInLine && second.staysInLine
  | .star body | .part _ body | .absent body => body.staysInLine
  | .textStart | .textEnd => false

/-- Whether a match takes at least one character. -/
def takesSome : Pattern → Bool
  | .one _ => true
  | .span _ least _ => 0 < least
  | .seq first second => first.takesSome || second.takesSome
  | .alt first second => first.takesSome && second.takesSome
  | .part _ body => body.takesSome
  | _ => false

theorem rest_length_le {c later : Cursor} (member : later ∈ p.ends c) :
    later.rest.length ≤ c.rest.length := by
  obtain ⟨taken, moves⟩ := mem_ends_moves member
  have sizes := moves.rest_length
  omega

theorem rest_length_lt_of_pos_lt {c later : Cursor} (member : later ∈ p.ends c)
    (onward : c.pos < later.pos) : later.rest.length < c.rest.length := by
  obtain ⟨taken, moves⟩ := mem_ends_moves member
  have sizes := moves.rest_length
  have places := moves.pos
  omega

theorem rest_length_lt (some : p.takesSome = true) {c later : Cursor} (member : later ∈ p.ends c) :
    later.rest.length < c.rest.length := by
  induction p generalizing c later with
  | one allowed =>
      rw [ends] at member
      split at member
      · next x rest follows =>
          split at member
          · rw [List.mem_singleton.mp member, follows, List.length_cons]
            exact Nat.lt_succ_self _
          · cases member
      · cases member
  | span allowed least greedy =>
      have positive : 0 < least := by simpa [takesSome] using some
      obtain ⟨taken, moves, -, enough, -⟩ := Cursor.mem_spanEnds member
      have sizes := moves.rest_length
      omega
  | seq first second ihFirst ihSecond =>
      obtain ⟨middle, near, far⟩ := List.mem_flatMap.mp member
      have one := rest_length_le near
      have two := rest_length_le far
      rcases Bool.or_eq_true_iff.mp some with takes | takes
      · have shorter := ihFirst takes near
        omega
      · have shorter := ihSecond takes far
        omega
  | alt first second ihFirst ihSecond =>
      obtain ⟨one, two⟩ := Bool.and_eq_true_iff.mp some
      rcases List.mem_append.mp member with here | there
      · exact ihFirst one here
      · exact ihSecond two there
  | part slot body ih =>
      obtain ⟨middle, inner, same⟩ := List.mem_map.mp member
      have shorter := ih some inner
      rw [← same]
      exact shorter
  | empty | star | edge | lineStart | textStart | textEnd | absent => cases some

/-- Where no step moves on, a repetition stays. -/
theorem repeatEnds_of_stuck {body : Cursor → List Cursor} {c : Cursor}
    (stuck : ∀ later ∈ body c, ¬ c.pos < later.pos) (n : Nat) : repeatEnds body n c = [c] := by
  cases n with
  | zero => rfl
  | succ n =>
      have none : ((body c).flatMap fun later =>
          if c.pos < later.pos then repeatEnds body n later else []) = [] := by
        rw [List.flatMap_eq_nil_iff]
        intro later member
        rw [if_neg (stuck later member)]
      rw [repeatEnds, none, List.nil_append]

theorem repeatEnds_place_of_atEnd (frame : LineFrame) (body : Pattern)
    (same : ∀ c, body.ends (frame.place c) = (body.ends c).map frame.place) {c : Cursor} {n m : Nat}
    (none : c.rest.length = 0) :
    repeatEnds body.ends n (frame.place c) = (repeatEnds body.ends m c).map frame.place := by
  have stuck : ∀ later ∈ body.ends c, ¬ c.pos < later.pos := by
    intro later member onward
    have shorter := rest_length_lt_of_pos_lt member onward
    omega
  have stuckToo : ∀ later ∈ body.ends (frame.place c), ¬ (frame.place c).pos < later.pos := by
    intro later member
    rw [same] at member
    obtain ⟨near, inner, rfl⟩ := List.mem_map.mp member
    rw [frame.pos_place_lt]
    exact stuck near inner
  rw [repeatEnds_of_stuck stuck, repeatEnds_of_stuck stuckToo]
  rfl

/-- Repetitions that may take as many steps as characters are left on the line are not cut short, so those
on the line and in the text are the same. -/
theorem repeatEnds_place (frame : LineFrame) (body : Pattern)
    (same : ∀ c, body.ends (frame.place c) = (body.ends c).map frame.place) {c : Cursor} {n m : Nat}
    (enough : c.rest.length ≤ n) (also : c.rest.length ≤ m) :
    repeatEnds body.ends n (frame.place c) = (repeatEnds body.ends m c).map frame.place := by
  induction n generalizing c m with
  | zero => exact repeatEnds_place_of_atEnd frame body same (by omega)
  | succ n ih =>
      cases m with
      | zero => exact repeatEnds_place_of_atEnd frame body same (by omega)
      | succ m =>
          rw [repeatEnds, repeatEnds, same, List.flatMap_map, List.map_append, List.map_flatMap,
            List.flatMap_def, List.flatMap_def]
          congr 2
          apply List.map_congr_left
          intro later member
          have order := frame.pos_place_lt c later
          by_cases onward : c.pos < later.pos
          · have shorter := rest_length_lt_of_pos_lt member onward
            rw [if_pos (order.mpr onward), if_pos onward]
            exact ih (by omega) (by omega)
          · rw [if_neg (mt order.mp onward), if_neg onward]
            rfl

/-- In the text, a pattern that stays on its line has the ends that it has on the line. -/
theorem ends_place (frame : LineFrame) (inLine : p.staysInLine = true) (c : Cursor) :
    p.ends (frame.place c) = (p.ends c).map frame.place := by
  induction p generalizing c with
  | empty => rfl
  | one allowed =>
      have bounded : allowed '\n' = false := by simpa [staysInLine] using inLine
      cases follows : c.rest with
      | nil =>
          rcases frame.behind_cases bounded with none | ⟨x, more, behind, other⟩
          · simp [ends, LineFrame.place, follows, none]
          · simp [ends, LineFrame.place, follows, behind, other]
      | cons x rest =>
          by_cases fits : allowed x = true
          · simp [ends, LineFrame.place, follows, fits, Nat.add_assoc]
          · simp [ends, LineFrame.place, follows, fits]
  | seq first second ihFirst ihSecond =>
      obtain ⟨one, two⟩ := Bool.and_eq_true_iff.mp inLine
      rw [ends, ends, ihFirst one, List.flatMap_map, List.map_flatMap]
      congr 1
      funext middle
      exact ihSecond two middle
  | alt first second ihFirst ihSecond =>
      obtain ⟨one, two⟩ := Bool.and_eq_true_iff.mp inLine
      rw [ends, ends, ihFirst one, ihSecond two, List.map_append]
  | span allowed least greedy =>
      have bounded : allowed '\n' = false := by simpa [staysInLine] using inLine
      exact frame.spanEnds_place bounded least greedy c
  | star body ih =>
      have longer : c.rest.length ≤ (frame.place c).rest.length := by
        rw [LineFrame.place, List.length_append]
        exact Nat.le_add_right _ _
      exact repeatEnds_place frame body (ih inLine) longer (Nat.le_refl _)
  | part slot body ih =>
      rw [ends, ends, ih inLine, List.map_map, List.map_map]
      apply List.map_congr_left
      intro later member
      obtain ⟨taken, moves⟩ := mem_ends_moves member
      simp only [Function.comp_apply, frame.upTo_place moves]
      rfl
  | edge =>
      rw [ends, ends, frame.atEdge_place]
      split <;> rfl
  | lineStart =>
      rw [ends, ends, frame.lineStart_place]
      split <;> rfl
  | absent body ih =>
      rw [ends, ends, ih inLine, List.isEmpty_map]
      split <;> rfl
  | textStart | textEnd => cases inLine

theorem matchAt_eq (c : Cursor) :
    p.matchAt c = (p.ends c).head?.map fun later => ⟨c.pos, later.pos, later.parts⟩ := by
  rw [matchAt, run_eq_findSome]
  cases p.ends c <;> rfl

theorem matchAt_place (frame : LineFrame) (inLine : p.staysInLine = true) (c : Cursor) :
    p.matchAt (frame.place c) = (p.matchAt c).map fun found =>
      ⟨frame.offset + found.start, frame.offset + found.stop, found.parts⟩ := by
  rw [matchAt_eq, matchAt_eq, ends_place frame inLine, List.head?_map, Option.map_map, Option.map_map]
  rfl

theorem stop_le_of_matchAt {c : Cursor} {found : Found} (matched : p.matchAt c = some found) :
    found.stop - found.start ≤ c.rest.length := by
  obtain ⟨later, member, rfl⟩ := exists_of_matchAt matched
  obtain ⟨taken, moves⟩ := mem_ends_moves member
  have sizes := moves.rest_length
  have places := moves.pos
  dsimp only
  omega

/-- What a scan captures in a line is captured there, too, where the line stands in a text; then the scan
goes on behind the line. -/
theorem scanFrom_append_parts (frame : LineFrame) (inLine : p.staysInLine = true) (line : List Char)
    (pos : Nat) (last : Option Char) {skip : Nat} (short : skip ≤ line.length) :
    (p.scanFrom (line ++ frame.behind) (frame.offset + pos) (last.or frame.before) skip).map (·.parts) =
      (p.scanFrom line pos last skip).map (·.parts) ++
        (p.scanFrom frame.behind (frame.offset + pos + line.length)
          (line.getLast?.or (last.or frame.before)) 0).map (·.parts) := by
  induction line generalizing pos last skip with
  | nil =>
      rw [List.length_nil] at short
      rw [Nat.le_zero.mp short]
      rfl
  | cons x line ih =>
      have further : ∀ {skip : Nat}, skip ≤ line.length →
          (p.scanFrom (line ++ frame.behind) (frame.offset + pos + 1) (some x) skip).map (·.parts) =
            (p.scanFrom line (pos + 1) (some x) skip).map (·.parts) ++
              (p.scanFrom frame.behind (frame.offset + pos + (x :: line).length)
                ((x :: line).getLast?.or (last.or frame.before)) 0).map (·.parts) := by
        intro skip fits
        have behind : (x :: line).getLast?.or (last.or frame.before) =
            line.getLast?.or ((some x).or frame.before) := by
          rw [List.getLast?_cons]
          cases line.getLast? <;> rfl
        have place : frame.offset + pos + (x :: line).length =
            frame.offset + (pos + 1) + line.length := by
          rw [List.length_cons]
          omega
        rw [behind, place]
        exact ih (pos + 1) (some x) fits
      cases skip with
      | succ skip =>
          rw [List.length_cons] at short
          rw [List.cons_append, scanFrom, scanFrom]
          exact further (by omega)
      | zero =>
          have same := matchAt_place frame inLine ⟨pos, last, x :: line, []⟩
          rw [LineFrame.place, List.cons_append] at same
          rw [List.cons_append, scanFrom, scanFrom, same]
          cases matched : p.matchAt ⟨pos, last, x :: line, []⟩ with
          | none => exact further (Nat.zero_le _)
          | some found =>
              have size := stop_le_of_matchAt matched
              rw [List.length_cons] at size
              simp only [Option.map_some, List.map_cons, List.cons_append]
              rw [Nat.add_sub_add_left]
              congr 1
              exact further (by omega)

/-- At the newline behind a line, a pattern that has to take a character does not match. -/
theorem scanFrom_newline (inLine : p.staysInLine = true) (some : p.takesSome = true)
    (text : List Char) (pos : Nat) (last : Option Char) :
    p.scanFrom ('\n' :: text) pos last 0 = p.scanFrom text (pos + 1) (Option.some '\n') 0 := by
  have none : p.matchAt ⟨pos, last, '\n' :: text, []⟩ = none := by
    have empty : p.ends ⟨0, last, [], []⟩ = [] := by
      apply List.eq_nil_iff_forall_not_mem.mpr
      intro later member
      exact absurd (rest_length_lt some member) (Nat.not_lt_zero _)
    have same := ends_place ⟨pos, Option.none, '\n' :: text, rfl, rfl⟩ inLine ⟨0, last, [], []⟩
    rw [empty, LineFrame.place] at same
    simp only [Nat.add_zero, Option.or_none, List.nil_append, List.map_nil] at same
    rw [matchAt_eq, same]
    rfl
  rw [scanFrom, none]

theorem scanFrom_parts (inLine : p.staysInLine = true) (some : p.takesSome = true) (text : List Char)
    (offset : Nat) {before : Option Char} (begins : before.all (· == '\n') = true) :
    (p.scanFrom text offset before 0).map (·.parts) =
      (lines text).flatMap fun line => (p.scan line).map (·.parts) := by
  induction size : text.length using Nat.strongRecOn generalizing text offset before with
  | ind size ih =>
    by_cases broken : '\n' ∈ text
    · obtain ⟨line, more, rfl, unbroken⟩ := List.eq_append_cons_of_mem broken
      have split : lines (line ++ '\n' :: more) = line :: lines more := by
        rw [lines, splitAt_append_mark, splitAt_of_not_mem unbroken]
        rfl
      rw [List.length_append, List.length_cons] at size
      have newline : (Option.some '\n').all (· == '\n') = true := rfl
      have rest := ih more.length (by omega) more (offset + line.length + 1) newline rfl
      have whole := scanFrom_append_parts ⟨offset, before, '\n' :: more, begins, rfl⟩ inLine line 0 none
        (Nat.zero_le _)
      rw [Nat.add_zero, Option.none_or] at whole
      rw [whole, scanFrom_newline inLine some, rest, split, List.flatMap_cons]
      rfl
    · have whole := scanFrom_append_parts ⟨offset, before, [], begins, rfl⟩ inLine text 0 none
        (Nat.zero_le _)
      simp only [Nat.add_zero, Option.none_or, List.append_nil] at whole
      rw [whole, lines, splitAt_of_not_mem broken, scanFrom.eq_def p []]
      simp [scan]

/-- A scan over a text captures what scans over its lines capture, one line after another. -/
theorem scan_parts (inLine : p.staysInLine = true) (some : p.takesSome = true) (text : List Char) :
    (p.scan text).map (·.parts) = (lines text).flatMap fun line => (p.scan line).map (·.parts) :=
  scanFrom_parts inLine some text 0 rfl

end Pattern

end CodeSurvey
