import CodeSurvey.Proofs.Source.Clauses
import CodeSurvey.Proofs.Source.ImportLines

/-!
Clause imports, written and read back. A statement on one line is put together from a clause and a quoted
specifier. The clause is found between `import` and the last `from` before the quotation mark, the
specifier between the two quotation marks, and no other specifier is found.
-/

set_option autoImplicit false

namespace CodeSurvey.Source

open Text Pattern Name

/-- A statement that imports what a clause names from a quoted specifier. -/
structure ClauseImport where
  typed : Bool
  clause : Clause
  quote : Char
  specifier : List Char
  quotes : Import.isQuote quote = true
  filled : specifier ≠ []
  trimmed : trim specifier = specifier
  plain : ∀ c ∈ specifier, Import.isQuoted c = true

namespace ClauseImport

def quoted (statement : ClauseImport) : List Char :=
  statement.quote :: (statement.specifier ++ [statement.quote])

/-- The clause, which the word `type` may mark. -/
def head (statement : ClauseImport) : List Char :=
  (if statement.typed then "type ".toList else []) ++ statement.clause.text

def text (statement : ClauseImport) : List Char :=
  "import ".toList ++ (statement.head ++ (" from ".toList ++ statement.quoted))

end ClauseImport

/-! Where the quotation marks are. -/

/-- Quotation marks are not of a kind that holds neither of the two. -/
theorem isQuote_of_apart {kind : Char → Bool} (apart : kind '\'' = false ∧ kind '"' = false) {c : Char}
    (fits : kind c = true) : Import.isQuote c = false := by
  rw [Import.isQuote, Bool.or_eq_false_iff, beq_eq_false_iff_ne, beq_eq_false_iff_ne]
  exact ⟨ne_of_kind fits apart.1, ne_of_kind fits apart.2⟩

theorem isQuote_of_isBlank {c : Char} (blank : isBlank c = true) : Import.isQuote c = false :=
  isQuote_of_apart (by decide) blank

theorem isQuote_of_isClause {c : Char} (inClause : Import.isClause c = true) : Import.isQuote c = false :=
  isQuote_of_apart (by decide +kernel) inClause

theorem isClause_from : ∀ c ∈ " from ".toList, Import.isClause c = true :=
  List.all_eq_true.mp (by decide +kernel)

theorem isBlank_of_isQuote {c : Char} (quotes : Import.isQuote c = true) : isBlank c = false := by
  cases blank : isBlank c with
  | false => rfl
  | true => rw [← quotes, isQuote_of_isBlank blank]

/-- A character that a text does not hold stands behind it. -/
theorem exists_append_of_mark {kind : Char → Bool} {front tail before behind : List Char} {x : Char}
    (free : ∀ c ∈ front, kind c = false) (mark : kind x = true)
    (same : front ++ tail = before ++ x :: behind) :
    ∃ between, before = front ++ between ∧ tail = between ++ x :: behind := by
  rcases List.append_eq_append_iff.mp same with ⟨between, more, rest⟩ | ⟨extra, whole, rest⟩
  · exact ⟨between, more, rest⟩
  · cases extra with
    | nil => exact ⟨[], by rw [whole, List.append_nil, List.append_nil], rest.symm⟩
    | cons y extra =>
        have first : x = y := (List.cons.inj rest).1
        have inside := free y (by rw [whole]; exact List.mem_append_right _ List.mem_cons_self)
        rw [← first, mark] at inside
        cases inside

namespace ClauseImport

variable (statement : ClauseImport)

theorem isQuote_specifier : ∀ c ∈ statement.specifier, Import.isQuote c = false := by
  intro c member
  have plain := statement.plain c member
  rw [Import.isQuoted, Bool.and_eq_true, Bool.not_eq_true'] at plain
  exact plain.1

/-- Behind a text without quotation marks, one stands before the specifier and one behind it. -/
theorem eq_of_quote {front before behind : List Char} {x : Char}
    (free : ∀ c ∈ front, Import.isQuote c = false) (mark : Import.isQuote x = true)
    (same : front ++ statement.quoted = before ++ x :: behind) :
    before = front ∨ before = front ++ statement.quote :: statement.specifier := by
  obtain ⟨between, rfl, inQuoted⟩ := exists_append_of_mark free mark same
  cases between with
  | nil => exact .inl (List.append_nil front)
  | cons y between =>
      obtain ⟨rfl, rest⟩ := List.cons.inj inQuoted
      obtain ⟨last, rfl, closing⟩ :=
        exists_append_of_mark statement.isQuote_specifier mark rest
      have none : last = [] := by
        have sizes := congrArg List.length closing
        simp only [List.length_append, List.length_cons, List.length_nil] at sizes
        exact List.length_eq_zero_iff.mp (by omega)
      rw [none, List.append_nil]
      exact .inr rfl

/-- A quotation mark behind a blank is the first one. -/
theorem eq_of_quote_behind_blank {front before behind : List Char} {x y : Char}
    (free : ∀ c ∈ front, Import.isQuote c = false) (mark : Import.isQuote x = true)
    (same : front ++ statement.quoted = before ++ x :: behind)
    (last : before.getLast? = some y) (blank : isBlank y = true) : before = front := by
  rcases statement.eq_of_quote free mark same with first | second
  · exact first
  · rw [second, List.getLast?_append, List.getLast?_cons,
      List.getLast?_eq_some_getLast statement.filled, Option.getD_some, Option.some_or] at last
    have final := final_of_trim_eq statement.trimmed y
      (by rw [List.getLast?_eq_some_getLast statement.filled]; exact last)
    rw [blank] at final
    cases final

end ClauseImport

/-! What the rule for a clause reads. -/

/-- The word `from` between blanks. -/
theorem exists_of_mem_from {q : Pattern} {c stop : Cursor}
    (member : stop ∈ (Pattern.seq blanks1 (.seq (.text "from") (.seq blanks1 q))).ends c) :
    ∃ gap more middle, c.rest = gap ++ ("from".toList ++ (more ++ middle.rest)) ∧
      (gap ≠ [] ∧ ∀ x ∈ gap, isBlank x = true) ∧ (more ≠ [] ∧ ∀ x ∈ more, isBlank x = true) ∧
      stop ∈ q.ends middle := by
  obtain ⟨first, inGap, member⟩ := List.mem_flatMap.mp member
  obtain ⟨second, inWord, member⟩ := List.mem_flatMap.mp member
  obtain ⟨middle, inMore, member⟩ := List.mem_flatMap.mp member
  obtain ⟨gap, moves, blank, gapLong, -⟩ := Cursor.mem_spanEnds inGap
  obtain ⟨more, onward, blanks, moreLong, -⟩ := Cursor.mem_spanEnds inMore
  refine ⟨gap, more, middle, ?_, ⟨List.length_pos_iff.mp gapLong, blank⟩,
    ⟨List.length_pos_iff.mp moreLong, blanks⟩, member⟩
  rw [moves.rest, rest_of_mem_ends_text inWord, onward.rest]

/-- What stands behind a clause. -/
def behindClause : Pattern :=
  .all [blanks1, .text "from", blanks1, .one Import.isQuote]

theorem exists_of_mem_behindClause {c stop : Cursor} (member : stop ∈ behindClause.ends c) :
    ∃ gap more x, c.rest = (gap ++ ("from".toList ++ more)) ++ x :: stop.rest ∧
      (gap ≠ [] ∧ ∀ c ∈ gap, isBlank c = true) ∧ (more ≠ [] ∧ ∀ c ∈ more, isBlank c = true) ∧
      Import.isQuote x = true := by
  obtain ⟨gap, more, middle, rest, before, behind, member⟩ := exists_of_mem_from member
  obtain ⟨last, mark, member⟩ := List.mem_flatMap.mp member
  obtain ⟨x, quotes, follows⟩ := exists_of_mem_ends_one mark
  refine ⟨gap, more, x, ?_, before, behind, quotes⟩
  rw [rest, follows, List.mem_singleton.mp member]
  simp only [List.append_assoc]

/-- The last `from` of a text stands before its last blanks. -/
theorem eq_of_from {left gap more : List Char}
    (same : left ++ " from ".toList = gap ++ ("from".toList ++ more)) (some : more ≠ [])
    (blank : ∀ c ∈ more, isBlank c = true) : gap = left ++ [' '] := by
  have back := congrArg List.reverse same
  have first : (left ++ " from ".toList).reverse =
      ' ' :: 'm' :: ("fro".toList.reverse ++ ' ' :: left.reverse) := by simp
  have second : (gap ++ ("from".toList ++ more)).reverse =
      more.reverse ++ 'm' :: ("fro".toList.reverse ++ gap.reverse) := by simp
  rw [first, second] at back
  cases reversed : more.reverse with
  | nil => exact absurd (List.reverse_eq_nil_iff.mp reversed) some
  | cons y rest =>
      rw [reversed] at back
      have onward := (List.cons.inj back).2
      cases rest with
      | nil =>
          have gaps := List.append_cancel_left (List.cons.inj onward).2
          rw [← List.reverse_reverse gap, ← gaps]
          simp
      | cons z rest =>
          have inside : z ∈ more := by
            rw [← List.mem_reverse, reversed]
            simp
          rw [← (List.cons.inj onward).1] at inside
          exact absurd (blank 'm' inside) (by decide)

namespace ClauseImport

variable (statement : ClauseImport)

theorem isQuote_clause : ∀ c ∈ statement.clause.text, Import.isQuote c = false :=
  fun c member => isQuote_of_isClause (statement.clause.isClause c member)

/-- What stands behind a clause is matched nowhere else: the blanks before `from` are the last ones. -/
theorem exists_gap_of_mem {front before : List Char} {c stop : Cursor}
    (free : ∀ x ∈ front, Import.isQuote x = false)
    (follows : before ++ c.rest = front ++ (" from ".toList ++ statement.quoted))
    (member : stop ∈ behindClause.ends c) :
    ∃ gap, gap ≠ [] ∧ (∀ x ∈ gap, isBlank x = true) ∧ before ++ gap = front ++ [' '] := by
  obtain ⟨gap, more, x, rest, ⟨some, blank⟩, ⟨between, blanks⟩, quotes⟩ :=
    exists_of_mem_behindClause member
  have wide : ∀ x ∈ front ++ " from ".toList, Import.isQuote x = false := by
    intro x member
    rcases List.mem_append.mp member with inFront | inWord
    · exact free x inFront
    · exact isQuote_of_isClause (isClause_from x inWord)
  have same : (front ++ " from ".toList) ++ statement.quoted =
      ((before ++ gap) ++ ("from".toList ++ more)) ++ x :: stop.rest := by
    rw [List.append_assoc, ← follows, rest]
    simp only [List.append_assoc]
  have final := List.getLast?_eq_some_getLast between
  have whole := statement.eq_of_quote_behind_blank wide quotes same
    (by rw [List.getLast?_append, List.getLast?_append, final]; rfl) (blanks _ (List.getLast_mem between))
  exact ⟨gap, some, blank, eq_of_from whole.symm between blanks⟩

/-- Behind a part of the clause, more of the clause has to come. -/
theorem refuses_within {short left : List Char} (part : statement.clause.text = short ++ left)
    (some : left ≠ []) (last : Option Char) :
    Refuses behindClause last (left ++ (" from ".toList ++ statement.quoted)) := by
  apply Refuses.of_forall
  intro c stop follows member
  have free : ∀ x ∈ left, Import.isQuote x = false := fun x inLeft =>
    statement.isQuote_clause x (by rw [part]; exact List.mem_append_right _ inLeft)
  have behind : [] ++ c.rest = left ++ (" from ".toList ++ statement.quoted) := follows
  obtain ⟨gap, -, blank, same⟩ := statement.exists_gap_of_mem free behind member
  -- So the part of the clause would be blank, but it ends as the clause does.
  have ends := List.getLast?_eq_some_getLast some
  have solid := statement.clause.trimmed.2.final (left.getLast some)
    (by rw [part, List.getLast?_append, ends]; rfl)
  have inGap : left.getLast some ∈ gap := by
    rw [List.nil_append] at same
    rw [same]
    exact List.mem_append_left _ (List.getLast_mem some)
  rw [blank _ inGap] at solid
  cases solid

theorem reads_behindClause (last : Option Char) :
    Reads behindClause last ([' '] ++ ("from".toList ++ ([' '] ++ [statement.quote])))
      (statement.specifier ++ [statement.quote]) [] := by
  have stops : ([statement.quote] ++ (statement.specifier ++ [statement.quote])).head?.any isBlank =
      false := isBlank_of_isQuote statement.quotes
  refine (Reads.span isBlank_space (Nat.le_refl 1) rfl).andThen ?_
  refine (Reads.text "from").andThen ?_
  refine (Reads.span isBlank_space (Nat.le_refl 1) stops).andThen ?_
  exact (Reads.one statement.quotes).alone

theorem reads_clause (last : Option Char) :
    Reads (.seq (.part 1 (.few1 (· != '\n'))) behindClause) last
      (statement.clause.text ++ ([' '] ++ ("from".toList ++ ([' '] ++ [statement.quote]))))
      (statement.specifier ++ [statement.quote]) [(1, statement.clause.text)] := by
  have enough : 1 ≤ statement.clause.text.length :=
    List.length_pos_iff.mpr statement.clause.trimmed.1
  have inLine := bne_of_not_mem (statement.clause.not_mem_text (show isClauseChar '\n' = false by decide))
  refine ((Offers.few inLine enough).part 1).seq ?_ (statement.reads_behindClause _)
  intro text passed last
  obtain ⟨short, left, some, -, part, rfl⟩ := passed
  have refuses := statement.refuses_within part some last
  simpa [quoted] using refuses

/-- A clause that begins with the word `type` is not mistaken for one that is marked by it. -/
theorem refuses_type (last : Option Char) :
    Refuses (.seq (.seq (.text "type") blanks1) (.seq (.part 1 (.few1 (· != '\n'))) behindClause)) last
      (statement.clause.text ++ (" from ".toList ++ statement.quoted)) := by
  apply Refuses.of_forall
  intro c stop follows member
  obtain ⟨near, marked, member⟩ := List.mem_flatMap.mp member
  obtain ⟨word, inWord, inGap⟩ := List.mem_flatMap.mp marked
  obtain ⟨far, capture, behind⟩ := List.mem_flatMap.mp member
  obtain ⟨inner, few, made⟩ := List.mem_map.mp capture
  obtain ⟨gap, moves, blank, gapLong, -⟩ := Cursor.mem_spanEnds inGap
  obtain ⟨taken, onward, -, takenLong, -⟩ := Cursor.mem_spanEnds few
  have whole : ("type".toList ++ (gap ++ taken)) ++ far.rest =
      statement.clause.text ++ (" from ".toList ++ statement.quoted) := by
    rw [← follows, rest_of_mem_ends_text inWord, moves.rest, onward.rest, ← made]
    simp only [List.append_assoc]
  obtain ⟨more, some, -, same⟩ := statement.exists_gap_of_mem statement.isQuote_clause whole behind
  -- What was taken behind the word is part of the clause, so the blank behind the word is, too.
  obtain ⟨x, blanks, rfl⟩ := List.exists_cons_of_length_pos gapLong
  have sizes := congrArg List.length same
  have moreLong := List.length_pos_iff.mpr some
  have letters : "type".toList.length = 4 := rfl
  simp only [List.length_append, List.length_cons, List.length_nil, letters] at sizes
  have before : "type".toList ++ [x] <+: statement.clause.text ++ [' '] := by
    rw [← same]
    exact ⟨blanks ++ taken ++ more, by simp⟩
  obtain ⟨rest, begins⟩ : "type".toList ++ [x] <+: statement.clause.text := by
    apply List.prefix_of_prefix_length_le before (List.prefix_append _ _)
    rw [List.length_append, letters, List.length_singleton]
    omega
  rw [List.append_assoc, List.singleton_append] at begins
  exact statement.clause.ne_type_blank (blank x List.mem_cons_self) rest begins.symm

/-- The clause is captured, whether the statement is marked as one of types or not. -/
theorem reads_clauseLine :
    Reads Binding.clauseLine none ("import".toList ++ ([' '] ++
      ((if statement.typed then "type ".toList else []) ++ (statement.clause.text ++ ([' '] ++
        ("from".toList ++ ([' '] ++ [statement.quote])))))))
      (statement.specifier ++ [statement.quote]) [(1, statement.clause.text)] := by
  obtain ⟨filled, trimmed⟩ := statement.clause.trimmed
  have stops : ∀ tail, (statement.clause.text ++ tail).head?.any isBlank = false :=
    trimmed.stops filled fun _ blank => blank
  refine Reads.textStart.here ?_
  refine (Reads.span (List.forall_mem_nil _) (Nat.zero_le _) rfl).here ?_
  refine (Reads.text "import").andThen ?_
  cases statement.typed with
  | true =>
      refine (Reads.span isBlank_space (Nat.le_refl 1) rfl).andThen ?_
      show Reads (.seq (.optional (.seq (.text "type") blanks1)) _) _ (("type".toList ++ [' ']) ++ _) _ _
      refine Reads.andThen (.alt_left ?_) (statement.reads_clause _)
      refine (Reads.text "type").andThen (.span isBlank_space (Nat.le_refl 1) ?_)
      rw [List.append_assoc]
      exact stops _
  | false =>
      rw [if_neg Bool.false_ne_true, List.nil_append]
      refine (Reads.span isBlank_space (Nat.le_refl 1) ?_).andThen ?_
      · rw [List.append_assoc]
        exact stops _
      · refine .optional_seq ?_ (statement.reads_clause _)
        have shape : statement.clause.text ++ ([' '] ++ ("from".toList ++ ([' '] ++ [statement.quote]))) ++
            (statement.specifier ++ [statement.quote]) =
              statement.clause.text ++ (" from ".toList ++ statement.quoted) := by
          simp [quoted]
        rw [shape]
        exact statement.refuses_type _

/-! What the rules for specifiers read. -/

theorem isClause_head : ∀ c ∈ statement.head, Import.isClause c = true := by
  intro c member
  rcases List.mem_append.mp member with typed | inClause
  · cases marked : statement.typed with
    | false =>
        rw [marked] at typed
        cases typed
    | true =>
        rw [marked] at typed
        exact List.all_eq_true.mp (by decide +kernel : "type ".toList.all Import.isClause = true) c typed
  · exact statement.clause.isClause c inClause

theorem head_stops (tail : List Char) : (statement.head ++ tail).head?.any isBlank = false := by
  rw [head]
  cases statement.typed with
  | false => exact statement.clause.trimmed.2.stops statement.clause.trimmed.1 (fun _ blank => blank) tail
  | true => rfl

theorem reads_quoted (last : Option Char) :
    Reads Import.quoted last ([statement.quote] ++ (statement.specifier ++ [statement.quote])) []
      [(1, statement.specifier)] := by
  have long : 1 ≤ statement.specifier.length := List.length_pos_iff.mpr statement.filled
  have stops : ([statement.quote] ++ []).head?.any Import.isQuoted = false := by
    show Import.isQuoted statement.quote = false
    rw [Import.isQuoted, statement.quotes]
    rfl
  refine (Reads.one statement.quotes).andThen ?_
  exact ((Reads.span statement.plain long stops).part 1).upTo (Reads.one statement.quotes).alone

/-- The clause reaches up to the last `from` before the quotation mark. -/
theorem reads_head (last : Option Char) :
    Reads (.all [.many Import.isClause, blanks1, .text "from", blanks1]) last
      (statement.head ++ ([' '] ++ ("from".toList ++ [' ']))) statement.quoted [] := by
  have stops : statement.quoted.head?.any isBlank = false := isBlank_of_isQuote statement.quotes
  have behind : Reads (.all [blanks1, .text "from", blanks1]) (statement.head.getLast?.or last)
      ([' '] ++ ("from".toList ++ [' '])) statement.quoted [] :=
    (Reads.span isBlank_space (Nat.le_refl 1) rfl).andThen
      ((Reads.text "from").andThen (Reads.span isBlank_space (Nat.le_refl 1) stops).alone)
  refine (Offers.span statement.isClause_head (Nat.zero_le _)).seq ?_ behind
  intro text passed last
  obtain ⟨extra, some, inClause, same⟩ := passed
  apply Refuses.of_forall
  intro c stop follows member
  obtain ⟨gap, more, middle, rest, ⟨gapSome, blank⟩, ⟨moreSome, blanks⟩, -⟩ := exists_of_mem_from member
  -- A longer clause would have to reach over the quotation mark.
  have whole : " from ".toList ++ statement.quoted =
      (extra ++ (gap ++ ("from".toList ++ more))) ++ middle.rest := by
    rw [List.append_assoc, List.append_assoc, List.append_assoc, ← rest, follows, ← same]
    rfl
  have free : ∀ x ∈ extra ++ (gap ++ ("from".toList ++ more)), Import.isQuote x = false := by
    intro x member
    simp only [List.mem_append] at member
    rcases member with inExtra | inGap | inWord | inMore
    · exact isQuote_of_isClause (inClause x inExtra)
    · exact isQuote_of_isBlank (blank x inGap)
    · exact isQuote_of_isClause (isClause_from x (List.mem_cons_of_mem ' '
        (List.mem_append_left [' '] inWord)))
    · exact isQuote_of_isBlank (blanks x inMore)
  obtain ⟨between, short, -⟩ := exists_append_of_mark free statement.quotes whole.symm
  have sizes := congrArg List.length short
  have extraLong := List.length_pos_iff.mpr some
  have gapLong := List.length_pos_iff.mpr gapSome
  have moreLong := List.length_pos_iff.mpr moreSome
  have letters : " from ".toList.length = 6 ∧ "from".toList.length = 4 := ⟨rfl, rfl⟩
  simp only [List.length_append, letters] at sizes
  omega

/-- What stands before the specifier is read as far as it goes. -/
theorem reads_statement :
    Reads Import.statement none statement.text [] [(1, statement.specifier)] := by
  have shape : statement.text = "import".toList ++ ([' '] ++
      ((statement.head ++ ([' '] ++ ("from".toList ++ [' ']))) ++
        ([statement.quote] ++ (statement.specifier ++ [statement.quote])))) := by
    show "import ".toList ++ (statement.head ++ (" from ".toList ++ statement.quoted)) = _
    simp [quoted]
  have upToQuote : ∀ last, Reads (.all [.many Import.isClause, blanks1, .text "from", blanks1]) last
      (statement.head ++ ([' '] ++ ("from".toList ++ [' '])))
      ([statement.quote] ++ (statement.specifier ++ [statement.quote]) ++ []) [] := by
    rw [List.append_nil]
    exact statement.reads_head
  rw [shape]
  refine (Reads.edge rfl).here ?_
  refine (Reads.text "import").andThen ?_
  refine (Reads.span isBlank_space (Nat.le_refl 1) ?_).andThen ?_
  · rw [List.append_assoc, List.append_assoc]
    exact statement.head_stops _
  · exact (Reads.alt_left (upToQuote _)).andThen (statement.reads_quoted _).alone

/-- The first quotation mark stands behind this. -/
def front : List Char :=
  "import ".toList ++ (statement.head ++ " from ".toList)

theorem text_eq : statement.text = statement.front ++ statement.quoted := by
  show "import ".toList ++ (statement.head ++ (" from ".toList ++ statement.quoted)) =
    "import ".toList ++ (statement.head ++ " from ".toList) ++ statement.quoted
  rw [List.append_assoc, List.append_assoc]

theorem isClause_front : ∀ c ∈ statement.front, Import.isClause c = true := by
  have letters : ∀ letter ∈ "import ".toList, Import.isClause letter = true :=
    List.all_eq_true.mp (by decide +kernel)
  intro c member
  rcases List.mem_append.mp member with start | behind
  · exact letters c start
  · rcases List.mem_append.mp behind with inHead | inWord
    · exact statement.isClause_head c inHead
    · exact isClause_from c inWord

end ClauseImport

/-- A call has a parenthesis and behind it two quotation marks. -/
theorem exists_of_mem_call {word : String} {c stop : Cursor} (member : stop ∈ (Import.call word).ends c) :
    ∃ before between x inner y rest, c.rest = (before ++ '(' :: between) ++ x :: (inner ++ y :: rest) ∧
      Import.isQuote x = true ∧ Import.isQuote y = true := by
  obtain ⟨first, edge, member⟩ := List.mem_flatMap.mp member
  obtain ⟨second, inWord, member⟩ := List.mem_flatMap.mp member
  obtain ⟨third, inGap, member⟩ := List.mem_flatMap.mp member
  obtain ⟨fourth, paren, member⟩ := List.mem_flatMap.mp member
  obtain ⟨fifth, inMore, member⟩ := List.mem_flatMap.mp member
  obtain ⟨sixth, inQuotes, -⟩ := List.mem_flatMap.mp member
  obtain ⟨opened, opening, inQuotes⟩ := List.mem_flatMap.mp inQuotes
  obtain ⟨held, capture, inQuotes⟩ := List.mem_flatMap.mp inQuotes
  obtain ⟨closed, closing, -⟩ := List.mem_flatMap.mp inQuotes
  obtain ⟨gap, moves, -⟩ := Cursor.mem_spanEnds inGap
  obtain ⟨more, onward, -⟩ := Cursor.mem_spanEnds inMore
  obtain ⟨x, firstQuote, start⟩ := exists_of_mem_ends_one opening
  obtain ⟨y, secondQuote, finish⟩ := exists_of_mem_ends_one closing
  obtain ⟨inner, holds⟩ := mem_ends_moves capture
  refine ⟨word.toList ++ gap, more, x, inner, y, closed.rest, ?_, firstQuote, secondQuote⟩
  rw [← eq_of_mem_ends_edge edge, rest_of_mem_ends_text inWord, moves.rest, rest_of_mem_ends_char paren,
    onward.rest, start, holds.rest, finish]
  simp

namespace ClauseImport

variable (statement : ClauseImport)

/-- No call is read from a statement: behind a parenthesis there is one quotation mark at most. -/
theorem refuses_call (word : String) {suffix : List Char} (inside : suffix <:+ statement.text)
    (last : Option Char) : Refuses (Import.call word) last suffix := by
  obtain ⟨skipped, whole⟩ := inside
  apply Refuses.of_forall
  intro c stop follows member
  obtain ⟨before, between, x, inner, y, rest, shape, first, second⟩ := exists_of_mem_call member
  have free : ∀ c ∈ statement.front, Import.isQuote c = false := fun c member =>
    isQuote_of_isClause (statement.isClause_front c member)
  have outside : '(' ∉ statement.front := not_mem_of_kind statement.isClause_front (by decide +kernel)
  have atFirst : statement.front ++ statement.quoted =
      (skipped ++ (before ++ '(' :: between)) ++ x :: (inner ++ y :: rest) := by
    rw [← statement.text_eq, ← whole, ← follows, shape]
    simp only [List.append_assoc]
  have atSecond : statement.front ++ statement.quoted =
      ((skipped ++ (before ++ '(' :: between)) ++ x :: inner) ++ y :: rest := by
    rw [atFirst]
    simp only [List.append_assoc, List.cons_append]
  have inFirst : skipped ++ (before ++ '(' :: between) ≠ statement.front := by
    intro same
    apply outside
    rw [← same]
    simp
  have inSecond : (skipped ++ (before ++ '(' :: between)) ++ x :: inner ≠ statement.front := by
    intro same
    apply outside
    rw [← same]
    simp
  have one := (statement.eq_of_quote free first atFirst).resolve_left inFirst
  have two := (statement.eq_of_quote free second atSecond).resolve_left inSecond
  rw [← one] at two
  have sizes := congrArg List.length two
  rw [List.length_append, List.length_cons] at sizes
  omega

theorem newline : '\n' ∉ statement.text := by
  have quote : statement.quote ≠ '\n' := ne_of_kind statement.quotes (by decide)
  have inSpecifier : '\n' ∉ statement.specifier := not_mem_of_kind statement.plain (by decide)
  have inHead : '\n' ∉ statement.head := by
    rw [head, List.mem_append, not_or]
    refine ⟨?_, statement.clause.not_mem_text (by decide)⟩
    cases statement.typed with
    | false => exact List.not_mem_nil
    | true => decide
  have inFront : '\n' ∉ statement.front := by
    show '\n' ∉ "import ".toList ++ (statement.head ++ " from ".toList)
    rw [List.mem_append, List.mem_append, not_or, not_or]
    exact ⟨by decide, inHead, by decide⟩
  rw [text_eq, List.mem_append, not_or]
  refine ⟨inFront, ?_⟩
  simp [quoted, inSpecifier, Ne.symm quote]

/-- The specifier is the only one that is found. -/
theorem found_eq : Import.found .ecmascript statement.text = [statement.specifier] := by
  have filled : statement.text ≠ [] := by
    rw [text_eq]
    exact List.append_ne_nil_of_right_ne_nil _ (List.cons_ne_nil _ _)
  have read := Import.captured_of_scan (scan_of_reads_all statement.reads_statement filled)
    statement.filled statement.trimmed
  have none : ∀ word, Import.captured (Import.call word) statement.text = [] := fun word =>
    Import.captured_of_scan_nil (scan_eq_nil fun last suffix inside =>
      statement.refuses_call word inside last)
  rw [Import.found, read, none, none]
  rfl

theorem bindings_eq : Family.ecmascript.bindings statement.text = statement.clause.localNames := by
  have shape : statement.text = ("import".toList ++ ([' '] ++
      ((if statement.typed then "type ".toList else []) ++ (statement.clause.text ++ ([' '] ++
        ("from".toList ++ ([' '] ++ [statement.quote]))))))) ++
          (statement.specifier ++ [statement.quote]) := by
    show "import ".toList ++ (statement.head ++ (" from ".toList ++ statement.quoted)) = _
    simp [head, quoted]
  rw [Family.bindings, shape, statement.reads_clauseLine.matchStart]
  exact statement.clause.ofClause_text

end ClauseImport

/-- A statement that imports what a clause names, alone on a line: its specifier is the only one found, and
the names found are those of the items in braces in their order, then the one for the whole module, then
the single one, all on the first line. -/
theorem clause_imports_read_back (statement : ClauseImport) :
    imports (some .ecmascript) statement.text = [String.ofList statement.specifier] ∧
      bindings (some .ecmascript) statement.text =
        statement.clause.localNames.map fun name => ⟨String.ofList name, 1⟩ := by
  constructor
  · show distinct (Import.found .ecmascript statement.text) = _
    have filled : ∀ text ∈ [statement.specifier], text ≠ [] := by
      simpa using statement.filled
    rw [statement.found_eq, distinct_of_filled filled]
    rfl
  · show declaredBy Family.ecmascript.bindings statement.text = _
    rw [declaredBy_of_line _ statement.newline, statement.bindings_eq]

/-- A name and two items in braces, with names that are words of the clause. -/
def namesAndTypes : ClauseImport :=
  ⟨true, .both ⟨"type".toList, by decide⟩ (.braces 1
    [⟨false, ⟨"from".toList, by decide⟩, none, by decide⟩,
      ⟨true, ⟨"a".toList, by decide⟩, some ⟨"as".toList, by decide⟩, by decide⟩] 0), '\'', "./x".toList,
    by decide, by decide, by decide, List.all_eq_true.mp (by decide)⟩

theorem clause_imports_read_back_of_clause_words :
    imports (some .ecmascript) "import type type, \x7b from, type a as as\x7d from './x'".toList =
        ["./x"] ∧
      bindings (some .ecmascript) "import type type, \x7b from, type a as as\x7d from './x'".toList =
        [⟨"from", 1⟩, ⟨"as", 1⟩, ⟨"type", 1⟩] := by
  have line : namesAndTypes.text =
      "import type type, \x7b from, type a as as\x7d from './x'".toList := by decide
  have whole := clause_imports_read_back namesAndTypes
  rw [line] at whole
  exact whole

end CodeSurvey.Source
