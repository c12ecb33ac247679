import CodeSurvey.Source.Body

/-!
Bodies in braces. A body goes on to the end of the first line, from the one with the first opening brace
on, at which no more braces are open than were closed before the first one was opened. So it has the line
with the brace that closes the first one unless such a line comes before, and where no closing brace comes
before the first opening one there is none.
-/

set_option autoImplicit false

namespace CodeSurvey.Source

open Text

/-! Depths. -/

theorem depthAfter_cons (depth : Int) (c : Char) (text : List Char) :
    depthAfter depth (c :: text) =
      depthAfter (if c = '\x7b' then depth + 1 else if c = '\x7d' then depth - 1 else depth) text :=
  rfl

theorem depthAfter_append (depth : Int) (front back : List Char) :
    depthAfter depth (front ++ back) = depthAfter (depthAfter depth front) back :=
  List.foldl_append

/-- What is open before a text stays open behind it. -/
theorem depthAfter_add (more depth : Int) (text : List Char) :
    depthAfter (depth + more) text = depthAfter depth text + more := by
  induction text generalizing depth with
  | nil => rfl
  | cons c text ih =>
      rw [depthAfter_cons, depthAfter_cons, ← ih]
      congr 1
      split
      · omega
      · split <;> omega

theorem depthAfter_of_not_mem (depth : Int) {text : List Char} (unopened : '\x7b' ∉ text) :
    depthAfter depth text = depth - text.count '\x7d' := by
  induction text generalizing depth with
  | nil => simp [depthAfter]
  | cons c text ih =>
      rw [List.mem_cons, not_or] at unopened
      rw [depthAfter_cons, if_neg (Ne.symm unopened.1), ih _ unopened.2, List.count_cons]
      by_cases closing : c = '\x7d'
      · simp only [closing, ↓reduceIte, beq_self_eq_true]
        omega
      · simp [closing]

/-! Where a body stops. -/

/-- Whether a body stops at the end of a line, if it gets there: `depth` braces are open before the first
line, and `opened` tells whether the first brace comes before it. -/
def StopsAt (lines : List (List Char)) (depth : Int) (opened : Bool) (n : Nat) : Prop :=
  if opened || (lines.take (n + 1)).any (·.contains '\x7b') then
    depthAfter depth (lines.take (n + 1)).flatten ≤ 0
  else ∃ line ∈ lines[n]?, endsStatement line = true

theorem stopsAt_zero {line : List Char} {rest : List (List Char)} {depth : Int} {opened : Bool} :
    StopsAt (line :: rest) depth opened 0 ↔
      if opened || line.contains '\x7b' then depthAfter depth line ≤ 0
      else endsStatement line = true := by
  simp [StopsAt]

theorem stopsAt_succ {line : List Char} {rest : List (List Char)} {depth : Int} {opened : Bool}
    {n : Nat} :
    StopsAt (line :: rest) depth opened (n + 1) ↔
      StopsAt rest (depthAfter depth line) (opened || line.contains '\x7b') n := by
  simp only [StopsAt, List.take_succ_cons, List.any_cons, List.flatten_cons, depthAfter_append,
    Bool.or_assoc, List.getElem?_cons_succ]

theorem braceSpan_cons_of_stopsAt {line : List Char} {rest : List (List Char)} {depth : Int}
    {opened : Bool} (stops : StopsAt (line :: rest) depth opened 0) :
    braceSpan (line :: rest) depth opened = 1 := by
  rw [stopsAt_zero] at stops
  cases begun : opened || line.contains '\x7b' with
  | true =>
      rw [begun, if_pos rfl] at stops
      simp only [braceSpan, begun, stops, Bool.true_and, decide_true, ↓reduceIte]
  | false =>
      rw [begun, if_neg Bool.false_ne_true] at stops
      simp only [braceSpan, begun, stops, Bool.false_and, Bool.false_eq_true, Bool.not_false,
        Bool.true_and, ↓reduceIte]

theorem braceSpan_cons_of_not_stopsAt {line : List Char} {rest : List (List Char)} {depth : Int}
    {opened : Bool} (passes : ¬ StopsAt (line :: rest) depth opened 0) :
    braceSpan (line :: rest) depth opened =
      1 + braceSpan rest (depthAfter depth line) (opened || line.contains '\x7b') := by
  rw [stopsAt_zero] at passes
  cases begun : opened || line.contains '\x7b' with
  | true =>
      rw [begun, if_pos rfl] at passes
      simp only [braceSpan, begun, passes, Bool.true_and, decide_false, Bool.false_eq_true,
        Bool.not_true, Bool.false_and, ↓reduceIte]
  | false =>
      rw [begun, if_neg Bool.false_ne_true] at passes
      simp only [braceSpan, begun, passes, Bool.false_and, Bool.false_eq_true, Bool.and_false,
        ↓reduceIte]

/-- A body has the lines up to the first one at whose end it stops. -/
theorem lt_braceSpan_iff {lines : List (List Char)} {depth : Int} {opened : Bool} {n : Nat} :
    n < braceSpan lines depth opened ↔
      n < lines.length ∧ ∀ m < n, ¬ StopsAt lines depth opened m := by
  induction lines generalizing depth opened n with
  | nil => simp [braceSpan]
  | cons line rest ih =>
      by_cases stops : StopsAt (line :: rest) depth opened 0
      · rw [braceSpan_cons_of_stopsAt stops]
        constructor
        · intro first
          refine ⟨by rw [List.length_cons]; omega, ?_⟩
          intro m before
          omega
        · intro reached
          by_cases positive : 0 < n
          · exact absurd stops (reached.2 0 positive)
          · omega
      · rw [braceSpan_cons_of_not_stopsAt stops]
        cases n with
        | zero =>
            constructor
            · intro _
              refine ⟨by rw [List.length_cons]; omega, ?_⟩
              intro m before
              omega
            · intro _
              omega
        | succ n =>
            have shift : n + 1 < 1 + braceSpan rest (depthAfter depth line)
                (opened || line.contains '\x7b') ↔
                n < braceSpan rest (depthAfter depth line) (opened || line.contains '\x7b') := by
              omega
            rw [shift, ih, List.length_cons, Nat.add_lt_add_iff_right]
            constructor
            · intro reached
              refine ⟨reached.1, ?_⟩
              intro m before
              cases m with
              | zero => exact stops
              | succ m =>
                  rw [stopsAt_succ]
                  exact reached.2 m (by omega)
            · intro reached
              refine ⟨reached.1, ?_⟩
              intro m before
              rw [← stopsAt_succ]
              exact reached.2 (m + 1) (by omega)

/-! Characters and their lines. -/

/-- The characters of lines, each with the number of its line; the first line has a given number. -/
def numbered : List (List Char) → Nat → List (Char × Nat)
  | [], _ => []
  | line :: rest, number => line.map (·, number) ++ numbered rest (number + 1)

theorem mem_numbered {lines : List (List Char)} {start : Nat} {place : Char × Nat} :
    place ∈ numbered lines start ↔
      start ≤ place.2 ∧ ∃ line ∈ lines[place.2 - start]?, place.1 ∈ line := by
  induction lines generalizing start with
  | nil => simp [numbered]
  | cons line rest ih =>
      rw [numbered, List.mem_append, ih]
      constructor
      · intro member
        rcases member with here | later
        · obtain ⟨c, inside, rfl⟩ := List.mem_map.mp here
          exact ⟨Nat.le_refl start, line, by simp, inside⟩
        · have step : place.2 - start = place.2 - (start + 1) + 1 := by omega
          rw [step, List.getElem?_cons_succ]
          exact ⟨by omega, later.2⟩
      · intro member
        by_cases first : place.2 = start
        · left
          rw [first, Nat.sub_self, List.getElem?_cons_zero] at member
          obtain ⟨-, other, same, inside⟩ := member
          cases same
          exact List.mem_map.mpr ⟨place.1, inside, by rw [← first]⟩
        · right
          have step : place.2 - start = place.2 - (start + 1) + 1 := by omega
          rw [step, List.getElem?_cons_succ] at member
          exact ⟨by omega, member.2⟩

theorem numbered_pairwise (lines : List (List Char)) (start : Nat) :
    (numbered lines start).Pairwise (·.2 ≤ ·.2) := by
  induction lines generalizing start with
  | nil => exact .nil
  | cons line rest ih =>
      rw [numbered, List.pairwise_append]
      refine ⟨?_, ih (start + 1), ?_⟩
      · rw [List.pairwise_map]
        exact List.pairwise_of_forall fun _ _ => Nat.le_refl start
      · intro place here other later
        obtain ⟨c, -, rfl⟩ := List.mem_map.mp here
        have behind := (mem_numbered.mp later).1
        show start ≤ other.2
        omega

/-- The characters up to the end of a line. -/
theorem takeWhile_numbered (lines : List (List Char)) (start n : Nat) :
    ((numbered lines start).takeWhile (·.2 ≤ n)).map (·.1) =
      (lines.take (n + 1 - start)).flatten := by
  induction lines generalizing start with
  | nil => simp [numbered]
  | cons line rest ih =>
      by_cases reached : start ≤ n
      · have size : n + 1 - start = n + 1 - (start + 1) + 1 := by omega
        have whole : ∀ place ∈ line.map (·, start), decide (place.2 ≤ n) = true := by
          simpa using fun _ _ => reached
        have own : (line.map (·, start)).map (·.1) = line := by
          rw [List.map_map]
          exact List.map_id line
        rw [numbered, List.takeWhile_append_of_pos whole, List.map_append, own, ih, size,
          List.take_succ_cons, List.flatten_cons]
      · have size : n + 1 - start = 0 := by omega
        have none : (numbered (line :: rest) start).takeWhile (·.2 ≤ n) = [] := by
          cases places : numbered (line :: rest) start with
          | nil => rfl
          | cons place more =>
              have member : place ∈ numbered (line :: rest) start := by
                rw [places]
                exact List.mem_cons_self
              have later := (mem_numbered.mp member).1
              have beyond : ¬ place.2 ≤ n := by omega
              exact List.takeWhile_cons_of_neg (by simpa using beyond)
        rw [none, size]
        rfl

/-- The first opening brace from a line on and the closing brace that belongs to it: behind the opening
one, as long as it is open, at least one brace is. -/
structure Enclosure (lines : List (List Char)) (start : Nat) where
  before : List (Char × Nat)
  opening : Nat
  inside : List (Char × Nat)
  closing : Nat
  behind : List (Char × Nat)
  text : numbered (lines.drop start) start =
    before ++ ('\x7b', opening) :: (inside ++ ('\x7d', closing) :: behind)
  first : '\x7b' ∉ before.map (·.1)
  opens : ∀ n ≤ inside.length, 0 < depthAfter 1 ((inside.take n).map (·.1))
  closes : depthAfter 1 (inside.map (·.1)) = 1

namespace Enclosure

variable {lines : List (List Char)} {start : Nat} (e : Enclosure lines start)

/-- How many braces are closed before the first one is opened. -/
def strays : Nat :=
  (e.before.map (·.1)).count '\x7d'

/-- How many braces are open at the end of a line, from the first opening one on. -/
def openAfter (n : Nat) : Int :=
  depthAfter 1 ((e.inside.takeWhile (·.2 ≤ n)).map (·.1))

theorem openAfter_pos (n : Nat) : 0 < e.openAfter n := by
  have early : e.inside.takeWhile (·.2 ≤ n) <+: e.inside := List.takeWhile_prefix _
  rw [openAfter, List.prefix_iff_eq_take.mp early]
  exact e.opens _ early.length_le

theorem le_opening {place : Char × Nat} (member : place ∈ e.before) : place.2 ≤ e.opening := by
  have order := numbered_pairwise (lines.drop start) start
  rw [e.text, List.pairwise_append] at order
  exact order.2.2 place member _ List.mem_cons_self

theorem opening_le {place : Char × Nat}
    (member : place ∈ e.inside ++ ('\x7d', e.closing) :: e.behind) : e.opening ≤ place.2 := by
  have order := numbered_pairwise (lines.drop start) start
  rw [e.text, List.pairwise_append] at order
  exact List.rel_of_pairwise_cons order.2.1 member

theorem opening_le_closing : e.opening ≤ e.closing :=
  e.opening_le (List.mem_append_right _ List.mem_cons_self)

theorem opening_mem : ('\x7b', e.opening) ∈ numbered (lines.drop start) start := by
  rw [e.text]
  exact List.mem_append_right _ List.mem_cons_self

theorem closing_mem : ('\x7d', e.closing) ∈ numbered (lines.drop start) start := by
  rw [e.text]
  exact List.mem_append_right _ (List.mem_cons_of_mem _ (List.mem_append_right _ List.mem_cons_self))

theorem start_le_opening : start ≤ e.opening :=
  (mem_numbered.mp e.opening_mem).1

theorem closing_lt : e.closing - start < (lines.drop start).length := by
  obtain ⟨-, line, here, -⟩ := mem_numbered.mp e.closing_mem
  exact (List.getElem?_eq_some_iff.mp here).1

/-- No brace is opened before the line with the first one. -/
theorem any_contains_iff (m : Nat) :
    ((lines.drop start).take (m + 1)).any (·.contains '\x7b') = true ↔ e.opening ≤ start + m := by
  rw [List.any_eq_true]
  constructor
  · intro opened
    obtain ⟨line, member, holds⟩ := opened
    obtain ⟨index, inside, here⟩ := List.mem_take_iff_getElem.mp member
    have place : ('\x7b', start + index) ∈ numbered (lines.drop start) start := by
      refine mem_numbered.mpr ⟨Nat.le_add_right start index, line, ?_, ?_⟩
      · show (lines.drop start)[start + index - start]? = some line
        rw [Nat.add_sub_cancel_left, ← here]
        exact List.getElem?_eq_getElem _
      · simpa using holds
    rw [e.text, List.mem_append, List.mem_cons] at place
    rcases place with early | same | late
    · exact absurd (List.mem_map.mpr ⟨_, early, rfl⟩) e.first
    · have number := (Prod.mk.inj same).2
      omega
    · have later := e.opening_le late
      have number : e.opening ≤ start + index := later
      omega
  · intro reached
    obtain ⟨-, line, here, holds⟩ := mem_numbered.mp e.opening_mem
    have bound := e.start_le_opening
    have early : e.opening - start < m + 1 := by omega
    refine ⟨line, ?_, by simpa using holds⟩
    exact List.mem_of_getElem? ((List.getElem?_take_of_lt early).trans here)

/-- From the line with the first opening brace up to that of the closing one, the braces closed before
count against those that are open. -/
theorem depthAfter_lines {n : Nat} (reached : e.opening ≤ n) (before : n < e.closing) :
    depthAfter 0 ((lines.drop start).take (n + 1 - start)).flatten = e.openAfter n - e.strays := by
  have front : ∀ place ∈ e.before, decide (place.2 ≤ n) = true := by
    intro place member
    have early := e.le_opening member
    simpa using by omega
  have back : (e.inside ++ ('\x7d', e.closing) :: e.behind).takeWhile (·.2 ≤ n) =
      e.inside.takeWhile (·.2 ≤ n) := by
    have later : ¬ e.closing ≤ n := by omega
    rw [List.takeWhile_append]
    split
    · next whole =>
        rw [(List.takeWhile_prefix _).eq_of_length whole,
          List.takeWhile_cons_of_neg (by simpa using later), List.append_nil]
    · rfl
  rw [← takeWhile_numbered, e.text, List.takeWhile_append_of_pos front,
    List.takeWhile_cons_of_pos (by simpa using reached), back, List.map_append, List.map_cons,
    depthAfter_append, depthAfter_of_not_mem _ e.first, depthAfter_cons, if_pos rfl, Int.add_comm,
    depthAfter_add, Int.zero_sub, ← Int.sub_eq_add_neg]
  rfl

/-- A body that no statement ends before the first opening brace stops before the closing one at just those
lines at which no more braces are open than strayed. -/
theorem stopsAt_iff (unended : ∀ n < e.opening, start ≤ n → ∀ line ∈ lines[n]?,
      endsStatement line = false) {m : Nat} (before : start + m < e.closing) :
    StopsAt (lines.drop start) 0 false m ↔
      e.opening ≤ start + m ∧ e.openAfter (start + m) ≤ e.strays := by
  have size : start + m + 1 - start = m + 1 := by omega
  rw [StopsAt, Bool.false_or]
  by_cases reached : e.opening ≤ start + m
  · have depth := e.depthAfter_lines reached before
    rw [size] at depth
    rw [if_pos ((e.any_contains_iff m).mpr reached), depth]
    constructor
    · intro low
      exact ⟨reached, by omega⟩
    · intro low
      omega
  · rw [if_neg fun opened => reached ((e.any_contains_iff m).mp opened)]
    constructor
    · intro ended
      obtain ⟨line, here, ends⟩ := ended
      rw [List.getElem?_drop] at here
      rw [unended (start + m) (by omega) (Nat.le_add_right start m) line here] at ends
      cases ends
    · intro low
      exact absurd low.1 reached

/-- The line of the closing brace is among those of the body if the body stops nowhere before. -/
theorem lt_braceSpan_closing_iff (unended : ∀ n < e.opening, start ≤ n → ∀ line ∈ lines[n]?,
      endsStatement line = false) :
    e.closing - start < braceSpan (lines.drop start) 0 false ↔
      ∀ n, e.opening ≤ n → n < e.closing → e.strays < e.openAfter n := by
  have starts := e.start_le_opening
  rw [lt_braceSpan_iff]
  constructor
  · intro passed n opened before
    have stops := e.stopsAt_iff unended (m := n - start) (by omega)
    have passes := passed.2 (n - start) (by omega)
    have number : start + (n - start) = n := by omega
    rw [stops, number] at passes
    omega
  · intro outnumbered
    refine ⟨e.closing_lt, ?_⟩
    intro m before stops
    rw [e.stopsAt_iff unended (by omega)] at stops
    have more := outnumbered (start + m) stops.1 (by omega)
    omega

end Enclosure

section

variable {lines : List (List Char)} {start : Nat}

theorem braceLength_of_not_arrow (plain : ∀ line ∈ lines[start]?, isExpressionArrow line = false) :
    braceLength (lines.drop start) = braceSpan (lines.drop start) 0 false := by
  unfold braceLength
  split
  · next none => rw [none]; rfl
  · next first rest below =>
      have here : lines[start]? = some first := by rw [← List.head?_drop, below]; rfl
      rw [plain first here]
      simp

theorem le_body_iff (plain : ∀ line ∈ lines[start]?, isExpressionArrow line = false) {n : Nat}
    (later : start ≤ n) (inside : n - start < (lines.drop start).length) :
    n ≤ (body .braces lines start).2 ↔ n - start < braceSpan (lines.drop start) 0 false := by
  have positive : 0 < braceSpan (lines.drop start) 0 false := by
    rw [lt_braceSpan_iff]
    exact ⟨by omega, fun m before => absurd before (Nat.not_lt_zero m)⟩
  have last : (body .braces lines start).2 = start + (braceSpan (lines.drop start) 0 false - 1) := by
    rw [← braceLength_of_not_arrow plain]
    rfl
  rw [last]
  omega

/-- A body that has a line has the text of all lines up to it. -/
theorem exists_body_text (plain : ∀ line ∈ lines[start]?, isExpressionArrow line = false) {n : Nat}
    (reached : n < braceSpan (lines.drop start) 0 false) :
    ∃ more, (body .braces lines start).1 = unlines ((lines.drop start).take (n + 1) ++ more) := by
  obtain ⟨further, size⟩ := Nat.exists_eq_add_of_lt reached
  have length : braceLength (lines.drop start) = n + 1 + further := by
    rw [braceLength_of_not_arrow plain]
    omega
  have taken : (body .braces lines start).1 =
      unlines ((lines.drop start).take (braceLength (lines.drop start))) := rfl
  rw [taken, length, List.take_add]
  exact ⟨_, rfl⟩

/-- Let no statement end between a declaration, which is no expression arrow, and the first opening brace.
The body has the line of the closing brace that belongs to it just if on each line before, from the one
with the opening brace on, more braces are open at its end than were closed before the first one was
opened. So it has it where no brace was, and then all lines up to it are in its text. -/
theorem body_reaches_closing_brace_iff (e : Enclosure lines start)
    (plain : ∀ line ∈ lines[start]?, isExpressionArrow line = false)
    (unended : ∀ n < e.opening, start ≤ n → ∀ line ∈ lines[n]?, endsStatement line = false) :
    (e.closing ≤ (body .braces lines start).2 ↔
        ∀ n, e.opening ≤ n → n < e.closing → e.strays < e.openAfter n) ∧
      ('\x7d' ∉ e.before.map (·.1) → e.closing ≤ (body .braces lines start).2 ∧
        ∃ more, (body .braces lines start).1 =
          unlines ((lines.drop start).take (e.closing - start + 1) ++ more)) := by
  have later : start ≤ e.closing := Nat.le_trans e.start_le_opening e.opening_le_closing
  have reaches := le_body_iff plain later e.closing_lt
  have condition := e.lt_braceSpan_closing_iff unended
  refine ⟨reaches.trans condition, ?_⟩
  intro unstrayed
  have none : e.strays = 0 := List.count_eq_zero.mpr unstrayed
  have reached : e.closing - start < braceSpan (lines.drop start) 0 false := by
    rw [condition]
    intro n _ _
    have some := e.openAfter_pos n
    omega
  exact ⟨reaches.mpr reached, exists_body_text plain reached⟩

end

/-- A declaration over two lines, with a block inside of its body and another declaration behind it. -/
def wrappedLines : List (List Char) :=
  ["int pick(int a,".toList, "         int b) \x7b".toList, "  if (a > b) \x7b return a; \x7d".toList,
    "  return b;".toList, "\x7d".toList, "void next() \x7b\x7d".toList]

def wrappedEnclosure : Enclosure wrappedLines 0 where
  before := (numbered wrappedLines 0).take 31
  opening := 1
  inside := ((numbered wrappedLines 0).drop 32).take 37
  closing := 4
  behind := (numbered wrappedLines 0).drop 70
  text := by decide
  first := by decide
  opens := by decide
  closes := by decide

theorem body_reaches_closing_brace_of_wrapped :
    wrappedEnclosure.closing = 4 ∧ 4 ≤ (body .braces wrappedLines 0).2 :=
  ⟨rfl, ((body_reaches_closing_brace_iff wrappedEnclosure (by decide) (by decide)).2
    (by decide)).1⟩

/-- A declaration behind a brace that closes something else. -/
def strayLines : List (List Char) :=
  ["\x7d function f(a) \x7b".toList, "  if (a) return 1".toList, "\x7d".toList]

def strayEnclosure : Enclosure strayLines 0 where
  before := (numbered strayLines 0).take 16
  opening := 0
  inside := ((numbered strayLines 0).drop 17).take 17
  closing := 2
  behind := []
  text := by decide
  first := by decide
  opens := by decide
  closes := by decide

/-- The brace in front makes up for the one that is opened, so the body ends on its first line though its
closing brace is two lines further on. -/
theorem body_misses_closing_brace_behind_stray :
    (∀ line ∈ strayLines[0]?, isExpressionArrow line = false) ∧
      (∀ n < strayEnclosure.opening, 0 ≤ n → ∀ line ∈ strayLines[n]?,
        endsStatement line = false) ∧
      strayEnclosure.closing = 2 ∧ (body .braces strayLines 0).2 = 0 :=
  ⟨by decide, by decide, rfl, by decide⟩

end CodeSurvey.Source
