import CodeSurvey.Proofs.Source.NestedFunctions

/-!
Signatures over several lines, where bodies are marked by indentation. A body takes its depth from the
first line below the declaration that is not blank, also where the signature goes on there. So it has the
line on which the signature ends just if no line up to that one is indented less than the first of them,
and this one more than the declaration.
-/

set_option autoImplicit false

namespace CodeSurvey.Source

open Text

/-- How many more parentheses a text opens than it closes. -/
def openParens (text : List Char) : Int :=
  (text.count '(' : Int) - text.count ')'

/-- How many parentheses are open at the end of a line, from the first line on. -/
def parensAfter (lines : List (List Char)) (n : Nat) : Int :=
  openParens (lines.take (n + 1)).flatten

/-- The first line leaves parentheses open, and so many lines below is the first one at whose end as many
are closed as were opened. -/
structure SignatureEnds (lines : List (List Char)) (n : Nat) : Prop where
  opens : 0 < parensAfter lines 0
  closes : parensAfter lines n = 0
  first : ∀ m < n, parensAfter lines m ≠ 0

instance (lines : List (List Char)) (n : Nat) : Decidable (SignatureEnds lines n) :=
  decidable_of_iff
    (0 < parensAfter lines 0 ∧ parensAfter lines n = 0 ∧ ∀ m < n, parensAfter lines m ≠ 0)
    ⟨fun h => ⟨h.1, h.2.1, h.2.2⟩, fun h => ⟨h.opens, h.closes, h.first⟩⟩

theorem openParens_append (front back : List Char) :
    openParens (front ++ back) = openParens front + openParens back := by
  simp only [openParens, List.count_append]
  omega

theorem openParens_of_isBlankText {text : List Char} (blank : isBlankText text = true) :
    openParens text = 0 := by
  have absent : ∀ mark : Char, isBlank mark = false → text.count mark = 0 := by
    intro mark filled
    exact List.count_eq_zero.mpr (not_mem_of_kind (List.all_eq_true.mp blank) filled)
  rw [openParens, absent '(' (by decide), absent ')' (by decide)]
  rfl

theorem parensAfter_succ (lines : List (List Char)) (n : Nat) :
    parensAfter lines (n + 1) = parensAfter lines n + openParens (lines[n + 1]?.getD []) := by
  rw [parensAfter, parensAfter, List.take_add_one, List.flatten_append, openParens_append]
  cases lines[n + 1]? <;> simp

/-- A signature that leaves parentheses open ends below its first line, on a line that is not blank. -/
theorem SignatureEnds.exists_line {first : List Char} {below : List (List Char)} {n : Nat}
    (ends : SignatureEnds (first :: below) n) :
    ∃ m line, n = m + 1 ∧ below[m]? = some line ∧ isBlankText line = false := by
  cases n with
  | zero =>
      have opens := ends.opens
      rw [ends.closes] at opens
      exact absurd opens (Int.lt_irrefl 0)
  | succ m =>
      have closes := ends.closes
      have before := ends.first m (Nat.lt_succ_self m)
      rw [parensAfter_succ, List.getElem?_cons_succ] at closes
      cases here : below[m]? with
      | none =>
          rw [here] at closes
          have nothing : openParens ((none : Option (List Char)).getD []) = 0 := rfl
          omega
      | some line =>
          rw [here, Option.getD_some] at closes
          refine ⟨m, line, rfl, here, ?_⟩
          cases blank : isBlankText line with
          | false => rfl
          | true =>
              have nothing := openParens_of_isBlankText blank
              omega

/-! Where an indented body ends. -/

section

variable {front back : List (List Char)} {first line : List Char}

theorem indentReach_blanks (own : Nat) (blank : ∀ other ∈ front, isBlankText other = true)
    (lines : List (List Char)) (base : Option Nat) (offset last : Nat) :
    indentReach own (front ++ lines) base offset last =
      indentReach own lines base (offset + front.length) last := by
  induction front generalizing offset with
  | nil => rfl
  | cons other front ih =>
      rw [List.forall_mem_cons] at blank
      rw [List.cons_append, indentReach, if_pos blank.1, ih blank.2, List.length_cons,
        Nat.add_assoc, Nat.add_comm 1]

theorem coverage_blanks (base : Nat) (blank : ∀ other ∈ front, isBlankText other = true)
    {lines : List (List Char)} (some : coverage base lines ≠ 0) :
    coverage base (front ++ lines) = front.length + coverage base lines := by
  induction front with
  | nil => simp
  | cons other front ih =>
      rw [List.forall_mem_cons] at blank
      have rest := ih blank.2
      have positive : coverage base (front ++ lines) ≠ 0 := by omega
      rw [List.cons_append, coverage, if_pos blank.1, if_neg positive, rest, List.length_cons]
      omega

/-- The first line below a declaration that is not blank sets the depth of the body. -/
theorem indentLength_of_first (blank : ∀ other ∈ front, isBlankText other = true)
    (filled : isBlankText line = false) :
    indentLength (first :: (front ++ line :: back)) =
      if indentation line ≤ indentation first then 1
      else coverage (indentation line) (front ++ line :: back) + 1 := by
  have here : coverage (indentation line) (line :: back) = coverage (indentation line) back + 1 := by
    simp [coverage, filled]
  have covered := coverage_blanks (indentation line) blank
    (show coverage (indentation line) (line :: back) ≠ 0 by omega)
  rw [indentLength, indentReach_blanks _ blank, indentReach, filled, if_neg Bool.false_ne_true]
  dsimp only
  split
  · rfl
  · rw [indentReach_some, covered, here]
    split <;> omega

/-- Up to a line that is not blank, a body has the lines that belong to it. -/
theorem covers_iff_of_filled {base n : Nat} {lines : List (List Char)} (here : lines[n]? = some line)
    (filled : isBlankText line = false) :
    Covers base lines n ↔ ∀ other ∈ lines.take (n + 1), Belongs base other := by
  constructor
  · exact Covers.belongs
  · intro belong
    exact ⟨n, line, Nat.le_refl n, here, filled, belong⟩

end

/-- Of the lines that are not blank, the first one is indented by more than `own`, and the others by no
less than the first one. -/
def HangBelow (own : Nat) (lines : List (List Char)) : Prop :=
  ∃ line rest, lines.filter (!isBlankText ·) = line :: rest ∧ own < indentation line ∧
    ∀ other ∈ rest, indentation line ≤ indentation other

theorem hangBelow_iff {own : Nat} {front back : List (List Char)} {line : List Char}
    (blank : ∀ other ∈ front, isBlankText other = true) (filled : isBlankText line = false) :
    HangBelow own (front ++ line :: back) ↔
      own < indentation line ∧ ∀ other ∈ back, Belongs (indentation line) other := by
  have none : front.filter (!isBlankText ·) = [] := by
    rw [List.filter_eq_nil_iff]
    intro other member
    simp [blank other member]
  have kept : (front ++ line :: back).filter (!isBlankText ·) =
      line :: back.filter (!isBlankText ·) := by
    rw [List.filter_append, none, List.nil_append, List.filter_cons_of_pos (by simp [filled])]
  rw [HangBelow, kept]
  constructor
  · intro hang
    obtain ⟨head, rest, same, deeper, others⟩ := hang
    obtain ⟨rfl, rfl⟩ := List.cons.inj same
    refine ⟨deeper, ?_⟩
    intro other member
    by_cases empty : isBlankText other = true
    · exact .inl empty
    · exact .inr (others other (List.mem_filter.mpr ⟨member, by simpa using empty⟩))
  · intro hang
    refine ⟨line, _, rfl, hang.1, ?_⟩
    intro other member
    obtain ⟨listed, visible⟩ := List.mem_filter.mp member
    rcases hang.2 other listed with empty | indented
    · simp [empty] at visible
    · exact indented

/-- The lines of which the first one that is not blank is known. -/
theorem exists_first_filled {lines : List (List Char)} {n : Nat} {last : List Char}
    (here : lines[n]? = some last) (filled : isBlankText last = false) :
    ∃ front line back, lines = front ++ line :: back ∧ isBlankText line = false ∧
      (∀ other ∈ front, isBlankText other = true) ∧ front.length ≤ n := by
  cases found : lines.find? (!isBlankText ·) with
  | none =>
      have blank := List.find?_eq_none.mp found last (List.mem_of_getElem? here)
      simp [filled] at blank
  | some line =>
      obtain ⟨visible, front, back, rfl, before⟩ := List.find?_eq_some_iff_append.mp found
      have blank : ∀ other ∈ front, isBlankText other = true := by
        intro other member
        simpa using before other member
      refine ⟨front, line, back, rfl, by simpa using visible, blank, ?_⟩
      by_cases inside : n < front.length
      · rw [List.getElem?_append_left inside] at here
        rw [blank last (List.mem_of_getElem? here)] at filled
        cases filled
      · omega

/-- A body has the line on which the signature ends if the lines of the signature hang below the
declaration. -/
theorem lt_indentLength_iff {first : List Char} {below : List (List Char)} {n : Nat}
    (ends : SignatureEnds (first :: below) n) :
    n < indentLength (first :: below) ↔ HangBelow (indentation first) (below.take n) := by
  obtain ⟨m, last, rfl, here, filledLast⟩ := ends.exists_line
  obtain ⟨front, line, back, rfl, filled, blank, early⟩ := exists_first_filled here filledLast
  have taken : (front ++ line :: back).take (m + 1) =
      front ++ line :: back.take (m - front.length) := by
    have size : m + 1 - front.length = m - front.length + 1 := by omega
    rw [List.take_append, List.take_of_length_le (by omega), size, List.take_succ_cons]
  rw [indentLength_of_first blank filled, taken, hangBelow_iff blank filled]
  split
  · next shallow =>
      constructor
      · intro short
        omega
      · intro hang
        omega
  · next deep =>
      rw [Nat.add_lt_add_iff_right, lt_coverage_iff, covers_iff_of_filled here filledLast, taken,
        List.forall_mem_append, List.forall_mem_cons]
      constructor
      · intro belong
        exact ⟨Nat.lt_of_not_le deep, belong.2.2⟩
      · intro hang
        refine ⟨?_, .inr (Nat.le_refl _), hang.2⟩
        intro other member
        exact .inl (blank other member)

/-- Let the line that declares a function leave parentheses open. The function has the line on which
its signature ends just if, of the lines from the declaration up to that one that are not blank, the first
is indented more than the declaration and none is indented less than the first. Then its text has all
these lines. -/
theorem function_reaches_signature_end_iff (content : List Char) {f : Function}
    (member : f ∈ functions (some .python) content) {n : Nat}
    (ends : SignatureEnds ((lines content).drop (f.line - 1)) n) :
    (f.line + n ≤ f.endLine ↔
        ∃ declaration ∈ (lines content)[f.line - 1]?,
          HangBelow (indentation declaration) (((lines content).drop f.line).take n)) ∧
      (f.line + n ≤ f.endLine →
        ∃ more, f.body.toList = unlines (((lines content).drop (f.line - 1)).take (n + 1) ++ more)) := by
  obtain ⟨index, first, below, place, -, begins, stops, text⟩ := exists_place_of_mem_functions member
  have start : f.line - 1 = index := by omega
  have behind : (lines content).drop f.line = below := by
    rw [begins, ← List.drop_drop, place]
    rfl
  have here : (lines content)[index]? = some first := by
    rw [← List.head?_drop, place]
    rfl
  rw [start, place] at ends
  have reaches : f.line + n ≤ f.endLine ↔ n < indentLength (first :: below) := by omega
  rw [start, here, behind, place, reaches, text]
  constructor
  · rw [lt_indentLength_iff ends]
    constructor
    · intro hang
      exact ⟨first, rfl, hang⟩
    · intro hang
      obtain ⟨declaration, same, hangs⟩ := hang
      cases same
      exact hangs
  · intro reached
    obtain ⟨further, size⟩ := Nat.exists_eq_add_of_lt reached
    have length : indentLength (first :: below) = n + 1 + further := by omega
    rw [length, List.take_add]
    exact ⟨_, rfl⟩

/-- A signature over four lines, of which one is blank and the last two are indented alike. -/
def hangingCode : List Char :=
  "def f(\n        a,\n\n        b):\n    return a\n".toList

theorem function_reaches_signature_end_of_hanging :
    ∃ f ∈ functions (some .python) hangingCode,
      SignatureEnds ((lines hangingCode).drop (f.line - 1)) 3 ∧ f.line + 3 ≤ f.endLine := by
  have found : ((functions (some .python) hangingCode).any fun f => decide (f.line = 1)) = true := by
    decide +kernel
  obtain ⟨f, member, same⟩ := List.any_eq_true.mp found
  have begins : f.line = 1 := of_decide_eq_true same
  have ends : SignatureEnds ((lines hangingCode).drop (f.line - 1)) 3 := by
    rw [begins]
    decide
  refine ⟨f, member, ends, ?_⟩
  apply (function_reaches_signature_end_iff hangingCode member ends).1.mpr
  rw [begins]
  exact ⟨"def f(".toList, rfl, "        a,".toList, ["        b):".toList], by decide, by decide,
    by decide⟩

/-- A signature whose last line is indented like the body, and less than the line before. -/
def dedentedCode : List Char :=
  "def f(a,\n      b,\n    ):\n    if a:\n        return b".toList

/-- The body ends on the second line, before the line on which the signature ends. -/
theorem function_misses_dedented_signature_end :
    ∃ f ∈ functions (some .python) dedentedCode,
      SignatureEnds ((lines dedentedCode).drop (f.line - 1)) 2 ∧ f.endLine = 2 ∧
        ¬ f.line + 2 ≤ f.endLine := by
  have found : ((functions (some .python) dedentedCode).any fun f =>
      decide (f.line = 1) && decide (f.endLine = 2)) = true := by
    decide +kernel
  obtain ⟨f, member, same⟩ := List.any_eq_true.mp found
  rw [Bool.and_eq_true, decide_eq_true_eq, decide_eq_true_eq] at same
  refine ⟨f, member, ?_, same.2, by omega⟩
  rw [same.1]
  decide

end CodeSurvey.Source
