import CodeSurvey.Proofs.Pattern.Inversion
import CodeSurvey.Proofs.Source.WholeUses
import CodeSurvey.Source.Declarations

set_option autoImplicit false

namespace CodeSurvey

open Text Pattern Source

namespace Family

theorem isIdentifierChar_of_isBlank (family : Family) {c : Char} (blank : isBlank c = true) :
    family.isIdentifierChar c = false := by
  cases family with
  | ecmascript => exact Name.isRest_of_isBlank blank
  | python => exact isWord_of_isBlank blank
  | java => exact Name.isRest_of_isBlank blank
  | php => exact isWord_of_isBlank blank

end Family

namespace Declaration

variable (family : Family)

/-- Behind the name of a variable come blanks, then an equals sign. -/
theorem opens_behind_name (behind : Pattern) :
    OpensWith (.seq blanks (.seq (.char '=') behind)) (family.isIdentifierChar · = false) := by
  have equals : OpensWith (.char '=') (family.isIdentifierChar · = false) :=
    .char (by cases family <;> decide)
  exact .span_seq (fun _ => family.isIdentifierChar_of_isBlank) (.seq equals)

/-- Behind the name of a variable come blanks, then a colon with a type or the equals sign. -/
theorem opens_behind_typed_name (type behind : Pattern) :
    OpensWith (.seq blanks (.seq (.optional (.seq (.char ':') type)) (.seq (.char '=') behind)))
      (family.isIdentifierChar · = false) := by
  have equals : OpensWith (.char '=') (family.isIdentifierChar · = false) :=
    .char (by cases family <;> decide)
  have colon : OpensWith (.char ':') (family.isIdentifierChar · = false) :=
    .char (by cases family <;> decide)
  exact .span_seq (fun _ => family.isIdentifierChar_of_isBlank)
    (.optional_seq (.seq colon) (.seq equals))

theorem closes_with_blank (before : List Pattern) :
    ClosesWith (all (before ++ [blanks1])) (family.isIdentifierChar · = false) :=
  .concat fun _ _ member =>
    ClosesWith.span (fun _ => family.isIdentifierChar_of_isBlank) member
      (fun none => absurd none (by decide))

theorem closes_at_start :
    ClosesWith (all [.textStart, blanks]) (family.isIdentifierChar · = false) := by
  intro c later member
  obtain ⟨middle, atStart, second⟩ := List.mem_flatMap.mp member
  obtain ⟨stop, blank, same⟩ := List.mem_flatMap.mp second
  rw [ends] at atStart
  split at atStart
  · next fresh =>
      rw [List.mem_singleton.mp same]
      rw [List.mem_singleton.mp atStart] at blank
      exact ClosesWith.span (fun _ => family.isIdentifierChar_of_isBlank) blank
        (fun _ => Option.isNone_iff_eq_none.mp fresh)
  · cases atStart

theorem closes_with_sigil :
    ClosesWith (all [.char '$']) (Family.php.isIdentifierChar · = false) := by
  have sigil : ClosesWith (.char '$') (Family.php.isIdentifierChar · = false) := .char (by decide)
  have closes : ClosesWith (all ([] ++ [.char '$'])) (Family.php.isIdentifierChar · = false) :=
    .concat sigil
  exact closes

end Declaration

open Declaration

/-- A name stands in a line with no character of identifiers beside it. -/
def Family.Separates (family : Family) (name line : List Char) : Prop :=
  ∃ front x rest, line = front ++ name ++ x :: rest ∧
    (∀ y, front.getLast? = some y → family.isIdentifierChar y = false) ∧
    family.isIdentifierChar x = false

/-- What the rule for a variable captures stands whole on its line. -/
theorem Family.variableRules_separate {family : Family} {rule : LineRule}
    (listed : rule ∈ family.variableRules) {line : List Char} {found : Found}
    (matched : rule.pattern.search line = some found) :
    family.Separates (found.part rule.slot) line := by
  cases family with
  | ecmascript =>
      cases List.mem_singleton.mp listed
      have parts : assignment = all ([.edge, storage] ++ [blanks1] ++ .part 1 Name.pattern ::
        [blanks, ascription, .char '=', .absent (.one fun c => c == '=' || c == '>')]) := rfl
      exact search_captures matched parts rfl (closes_with_blank .ecmascript _)
        (opens_behind_typed_name .ecmascript _ _)
  | python =>
      cases List.mem_singleton.mp listed
      have parts : plainAssignment = all ([.textStart, blanks] ++
        .part 1 (.seq (.one fun c => isAsciiLetter c || c == '_') (.many isWord)) ::
        [blanks, .optional (.all [.char ':', blanks, .many1 (· != '=')]), .char '=',
          .absent (.char '=')]) := rfl
      exact search_captures matched parts rfl (closes_at_start .python)
        (opens_behind_typed_name .python _ _)
  | java =>
      cases List.mem_singleton.mp listed
      have parts : typedAssignment = all ([.textStart, blanks, modifiers,
          .part 1 (.seq (.many1 isTypeChar)
            (.optional (.all [blanks, .char '<', .many (· != '='), .char '>'])))] ++ [blanks1] ++
        .part 2 (.many1 isWord) :: [blanks, .char '=', .absent (.char '=')]) := rfl
      exact search_captures matched parts rfl (closes_with_blank .java _) (opens_behind_name .java _)
  | php =>
      cases List.mem_singleton.mp listed
      have parts : sigilAssignment = all ([.char '$'] ++ .part 1 (.many1 isWord) ::
        [blanks, .char '=', .absent (.one fun c => c == '=' || c == '>')]) := rfl
      exact search_captures matched parts rfl closes_with_sigil (opens_behind_name .php _)

theorem Family.Separates.wholeUses {family : Family} {name line : List Char}
    (separates : family.Separates name line) (filled : name ≠ []) {lines : List (List Char)}
    (listed : line ∈ lines) : wholeUses family name lines ≠ [] := by
  obtain ⟨front, x, rest, split, left, right⟩ := separates
  have before : ([] ++ front).getLast?.any family.isIdentifierChar = false := by
    rw [List.nil_append]
    cases last : front.getLast? with
    | none => rfl
    | some y => exact left y last
  have use := mem_wholeUsesFrom [] front (x :: rest) split filled before right
  exact List.ne_nil_of_mem (List.mem_flatMap.mpr ⟨line, listed, use⟩)

theorem LineRule.exists_of_name? {rule : LineRule} {line name : List Char}
    (gives : rule.name? line = some name) :
    ∃ found, rule.pattern.search line = some found ∧ found.part rule.slot = name ∧ name ≠ [] := by
  rw [LineRule.name?] at gives
  split at gives
  · next found matched =>
      dsimp only at gives
      split at gives
      · cases gives
      · next kept =>
          cases gives
          exact ⟨found, matched, rfl, fun none => kept (by simp [none])⟩
  · cases gives

/-! The shape of names in a script: each is one whole name. -/

namespace Name

theorem isName_of_mem_ends {c later : Cursor} {name : List Char} (member : later ∈ pattern.ends c)
    (moves : c.MovesOver name later) : isName name = true := by
  obtain ⟨middle, first, more⟩ := List.mem_flatMap.mp member
  rw [ends] at first
  split at first
  · next x rest follows =>
      split at first
      · next starts =>
          obtain ⟨taken, onward, fit, -⟩ := Cursor.mem_spanEnds more
          rw [List.mem_singleton.mp first] at onward
          have step : c.MovesOver [x] ⟨c.pos + 1, some x, rest, c.parts⟩ := ⟨follows, rfl, rfl⟩
          rw [← moves.upTo_eq, (step.trans onward).upTo_eq, List.singleton_append, isName, starts]
          exact List.all_eq_true.mpr fit
      · cases first
  · cases first

theorem isName_of_search {p : Pattern} (before behind : List Pattern) {slot : Nat}
    {text : List Char} {found : Found} (matched : p.search text = some found)
    (parts : p = all (before ++ .part slot pattern :: behind))
    (silent : (all behind).isSilent = true) : isName (found.part slot) = true := by
  obtain ⟨-, -, near, inner, -, -, -, -, taken, moves, -⟩ := exists_of_search matched parts silent
  exact isName_of_mem_ends taken moves

end Name

/-- The rules of scripts capture whole names. -/
theorem Family.ecmascript_rules_isName {rule : LineRule}
    (listed : rule ∈ Family.ecmascript.functionRules ++ Family.ecmascript.variableRules ++
      Family.ecmascript.classRules) {line : List Char} {found : Found}
    (matched : rule.pattern.search line = some found) :
    Name.isName (found.part rule.slot) = true := by
  simp only [functionRules, variableRules, classRules, List.cons_append, List.nil_append,
    List.mem_cons, List.not_mem_nil, or_false] at listed
  rcases listed with rfl | rfl | rfl | rfl
  · exact Name.isName_of_search [.edge, .text "function", blanks, .optional (.char '*'), blanks]
      [blanks, .char '('] matched rfl rfl
  · exact Name.isName_of_search [.edge, storage, blanks1]
      [blanks, ascription, .char '=', blanks, .optional (.seq (.text "async") blanks1),
        .alt (.all [.char '(', .many (· != ')'), .char ')']) Name.pattern, blanks,
        .optional (.all [.char ':', blanks, .many1 (· != '=')]), .text "=>"] matched rfl rfl
  · exact Name.isName_of_search [.edge, storage, blanks1]
      [blanks, ascription, .char '=', .absent (.one fun c => c == '=' || c == '>')] matched rfl rfl
  · exact Name.isName_of_search [.edge, .text "class", blanks1] [] matched rfl rfl

theorem exists_of_mem_elim {α β : Type} {choice : Option α} {items : α → List β} {b : β}
    (member : b ∈ choice.elim [] items) : ∃ a, choice = some a ∧ b ∈ items a := by
  cases choice with
  | none => cases member
  | some a => exact ⟨a, rfl, member⟩

/-- Imports of scripts introduce whole names. -/
theorem Binding.ofClause_isName {clause name : List Char} (member : name ∈ ofClause clause) :
    Name.isName name = true := by
  simp only [ofClause, List.mem_append] at member
  rcases member with (inBraces | ofStar) | left
  · obtain ⟨found, -, listed⟩ := exists_of_mem_elim inBraces
    exact (List.mem_filter.mp listed).2
  · obtain ⟨found, matched, same⟩ := exists_of_mem_elim ofStar
    rw [List.mem_singleton.mp same]
    exact Name.isName_of_search [.char '*', blanks, .text "as", blanks1] [] matched rfl rfl
  · split at left
    · next whole => exact List.mem_singleton.mp left ▸ whole
    · cases left

namespace Source

theorem exists_of_mem_declaredBy {find : List Char → List (List Char)} {content : List Char}
    {d : Declared} (member : d ∈ declaredBy find content) :
    ∃ line ∈ Text.lines content, d.name.toList ∈ find line := by
  obtain ⟨⟨line, number⟩, numbered, named⟩ := List.mem_flatMap.mp member
  obtain ⟨name, found, rfl⟩ := List.mem_map.mp named
  refine ⟨line, List.fst_mem_of_mem_zipIdx numbered, ?_⟩
  rwa [String.toList_ofList]

theorem exists_of_mem_functionsFrom {family : Family} {all rest : List (List Char)} {start : Nat}
    {f : Function} (member : f ∈ functionsFrom family all rest start) :
    ∃ line ∈ rest, f.name.toList ∈ ruleNames family.functionRules line := by
  induction rest generalizing start with
  | nil => cases member
  | cons line rest ih =>
      rw [functionsFrom, List.mem_append] at member
      rcases member with here | later
      · split at here
        · cases here
        · obtain ⟨name, named, rfl⟩ := List.mem_map.mp here
          refine ⟨line, List.mem_cons_self, ?_⟩
          rw [String.toList_ofList]
          exact List.mem_eraseDups.mp named
      · obtain ⟨other, listed, named⟩ := ih later
        exact ⟨other, List.mem_cons_of_mem line listed, named⟩

/-- A variable has a use, for its declaration is one. -/
theorem variablesOf_wholeUses {family : Family} {content : List Char} {v : Declared}
    (member : v ∈ variablesOf (some family) content) :
    wholeUses family v.name.toList (Text.lines content) ≠ [] := by
  obtain ⟨line, listed, named⟩ := exists_of_mem_declaredBy member
  obtain ⟨rule, ruled, gives⟩ := List.mem_filterMap.mp named
  obtain ⟨found, matched, same, filled⟩ := LineRule.exists_of_name? gives
  have separates := Family.variableRules_separate ruled matched
  rw [same] at separates
  exact separates.wholeUses filled listed

/-- In a script every name that a rule finds is one whole name. -/
theorem ruleNames_isName {rules : List LineRule}
    (script : rules ⊆ Family.ecmascript.functionRules ++ Family.ecmascript.variableRules ++
      Family.ecmascript.classRules) {line name : List Char} (member : name ∈ ruleNames rules line) :
    Name.isName name = true := by
  obtain ⟨rule, listed, gives⟩ := List.mem_filterMap.mp member
  obtain ⟨found, matched, rfl, -⟩ := LineRule.exists_of_name? gives
  exact Family.ecmascript_rules_isName (script listed) matched

end Source

end CodeSurvey
