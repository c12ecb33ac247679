import CodeSurvey.Proofs.Source.Tokens
import CodeSurvey.Proofs.Text.Classes
import CodeSurvey.Language.Family

set_option autoImplicit false

namespace CodeSurvey

open Text

/-- The characters of identifiers: word characters, and the dollar sign where it can be part of a
name. -/
def Family.isIdentifierChar : Family → Char → Bool
  | .ecmascript, c => isWord c || c == '$'
  | .python, c => isWord c
  | .java, c => isWord c || c == '$'
  | .php, c => isWord c

theorem Family.isWord_of_isIdentifierChar (family : Family) {c : Char}
    (other : family.isIdentifierChar c = false) : isWord c = false := by
  cases family with
  | ecmascript | java => exact (Bool.or_eq_false_iff.mp other).1
  | python | php => exact other

namespace Source

open Name

/-- Whether a name stands whole at a place, given what is before the place and what follows it. -/
def standsWhole (isPart : Char → Bool) (name before rest : List Char) : Bool :=
  !name.isEmpty && name.isPrefixOf rest && !before.getLast?.any isPart &&
    !(rest.drop name.length).head?.any isPart

/-- The whole uses of a name in a text, each as what is before it and what is behind it; `before` is
what precedes the text. -/
def wholeUsesFrom (isPart : Char → Bool) (name : List Char) :
    List Char → List Char → List (List Char × List Char)
  | _, [] => []
  | before, x :: rest =>
    (if standsWhole isPart name before (x :: rest) then
      [(before, (x :: rest).drop name.length)] else []) ++
      wholeUsesFrom isPart name (before ++ [x]) rest

def wholeUses (family : Family) (name : List Char) (lines : List (List Char)) :
    List (List Char × List Char) :=
  lines.flatMap (wholeUsesFrom family.isIdentifierChar name [])

theorem mem_wholeUsesFrom {isPart : Char → Bool} {name text : List Char}
    (before front rest : List Char) (split : text = front ++ name ++ rest) (filled : name ≠ [])
    (left : (before ++ front).getLast?.any isPart = false) (right : rest.head?.any isPart = false) :
    (before ++ front, rest) ∈ wholeUsesFrom isPart name before text := by
  induction front generalizing before text with
  | nil =>
      cases name with
      | nil => exact absurd rfl filled
      | cons x more =>
          subst split
          rw [List.append_nil] at left ⊢
          have stands : standsWhole isPart (x :: more) before (x :: (more ++ rest)) = true := by
            simp [standsWhole, left, right]
          simp [wholeUsesFrom, stands]
  | cons x front ih =>
      subst split
      rw [List.cons_append, List.cons_append, wholeUsesFrom]
      have later := ih (before ++ [x]) rfl (by simpa using left)
      rw [← List.append_cons] at later
      exact List.mem_append_right _ later

theorem neighbours_of_mem {isPart : Char → Bool} {name before text : List Char}
    {use : List Char × List Char} (member : use ∈ wholeUsesFrom isPart name before text) :
    use.1.getLast?.any isPart = false ∧ use.2.head?.any isPart = false := by
  induction text generalizing before with
  | nil => cases member
  | cons x rest ih =>
      rcases List.mem_append.mp member with here | later
      · split at here
        · next stands =>
            rw [List.mem_singleton.mp here]
            simp only [standsWhole, Bool.and_eq_true, Bool.not_eq_true'] at stands
            exact ⟨stands.1.2, stands.2⟩
        · cases here
      · exact ih later

/-- The token that has begun directly in front of a place. -/
def begun (before : List Char) : List Char :=
  (before.reverse.takeWhile isRest).reverse.dropWhile (!isStart ·)

/-- Whether a use can be read as a token of its own: a token that has begun in front of it holds
nothing but dollar signs, without one the name begins a token itself, and the token ends with the
name, which is more than dollar signs. -/
def isLegible (name : List Char) (use : List Char × List Char) : Bool :=
  (name.all isRest && !(bareName name).isEmpty) &&
    ((begun use.1).all (· == '$') && (!(begun use.1).isEmpty || name.head?.any isStart)) &&
    !use.2.head?.any isRest

theorem begun_append_of_all {before text : List Char} (none : begun before = [])
    (fit : ∀ x ∈ text, isRest x = true) :
    begun (before ++ text) = text.dropWhile (!isStart ·) := by
  rw [begun, List.reverse_append,
    List.takeWhile_append_of_pos (fun x member => fit x (List.mem_reverse.mp member)),
    List.reverse_append, List.reverse_reverse, List.dropWhile_append]
  change (if (begun before).isEmpty then _ else _) = _
  rw [none]
  rfl

theorem begun_append_other {before : List Char} {x : Char} (other : isRest x = false) :
    begun (before ++ [x]) = [] := by
  simp [begun, other]

theorem bareName_append_of_dollars {dollars name : List Char}
    (all : dollars.all (· == '$') = true) : bareName (dollars ++ name) = bareName name :=
  List.dropWhile_append_of_pos (List.all_eq_true.mp all)

/-- What may continue a name is taken up to where it ends. -/
theorem takeWhile_isRest_append {text rest : List Char} (fit : ∀ x ∈ text, isRest x = true)
    (ended : rest.head?.any isRest = false) : (text ++ rest).takeWhile isRest = text := by
  rw [List.takeWhile_append_of_pos fit]
  cases rest with
  | nil => simp
  | cons x rest =>
      rw [List.takeWhile_cons_of_neg (by simpa using ended), List.append_nil]

/-- What may continue a name ends at the same place in a text, however the text is split. -/
theorem eq_of_rest_ends {first second more other : List Char}
    (same : first ++ more = second ++ other) (fitFirst : ∀ x ∈ first, isRest x = true)
    (fitSecond : ∀ x ∈ second, isRest x = true) (endFirst : more.head?.any isRest = false)
    (endSecond : other.head?.any isRest = false) : first = second := by
  rw [← takeWhile_isRest_append fitFirst endFirst, same,
    takeWhile_isRest_append fitSecond endSecond]

theorem standsWhole_split {isPart : Char → Bool} {name before text : List Char}
    (stands : standsWhole isPart name before text = true) :
    name ≠ [] ∧ text = name ++ text.drop name.length := by
  simp only [standsWhole, Bool.and_eq_true, Bool.not_eq_true', List.isEmpty_eq_false_iff,
    List.isPrefixOf_iff_prefix] at stands
  obtain ⟨⟨⟨filled, starts⟩, -⟩, -⟩ := stands
  exact ⟨filled, (List.prefix_iff_eq_append.mp starts).symm⟩

/-- A legible use inside a token ends it, and the token is then the name. -/
theorem token_eq_of_isLegible {name before rest after : List Char} (passed left : List Char)
    (fresh : begun before = []) (starts : (passed ++ left).head?.any isStart = true)
    (fit : ∀ x ∈ passed ++ left, isRest x = true) (ends : rest.head?.any isRest = false)
    (here : left ++ rest = name ++ after)
    (legible : isLegible name (before ++ passed, after) = true) :
    left = name ∧ bareName (passed ++ left) = bareName name := by
  simp only [isLegible, Bool.and_eq_true, Bool.not_eq_true', List.all_eq_true] at legible
  obtain ⟨⟨⟨fitName, -⟩, dollars, -⟩, ended⟩ := legible
  have same : left = name := eq_of_rest_ends here
    (fun x member => fit x (List.mem_append_right passed member)) fitName ends ended
  refine ⟨same, ?_⟩
  rw [same]
  cases passed with
  | nil => rfl
  | cons first passed =>
      have opening : isStart first = true := starts
      rw [begun_append_of_all fresh fun x member => fit x (List.mem_append_left left member),
        List.dropWhile_cons_of_neg (by simp [opening])] at dollars
      exact bareName_append_of_dollars (List.all_eq_true.mpr dollars)

/-- Within one token at most one use is legible. -/
theorem legible_in_token (isPart : Char → Bool) {before rest : List Char}
    (name passed left : List Char) (fresh : begun before = [])
    (starts : (passed ++ left).head?.any isStart = true)
    (fit : ∀ x ∈ passed ++ left, isRest x = true) (ends : rest.head?.any isRest = false) :
    ((wholeUsesFrom isPart name (before ++ passed) (left ++ rest)).filter (isLegible name)).length ≤
      (if name.length ≤ left.length ∧ bareName (passed ++ left) = bareName name then 1 else 0) +
        ((wholeUsesFrom isPart name (before ++ (passed ++ left)) rest).filter
          (isLegible name)).length := by
  induction left generalizing passed with
  | nil =>
      rw [List.append_nil]
      exact Nat.le_add_left _ _
  | cons x left ih =>
      have further : passed ++ x :: left = (passed ++ [x]) ++ left := List.append_cons _ _ _
      have tail := ih (passed ++ [x]) (further ▸ starts) (further ▸ fit)
      rw [← List.append_assoc, ← further] at tail
      rw [List.cons_append, wholeUsesFrom, List.filter_append, List.length_append]
      by_cases read : standsWhole isPart name (before ++ passed) (x :: (left ++ rest)) = true ∧
          isLegible name (before ++ passed, (x :: (left ++ rest)).drop name.length) = true
      · obtain ⟨-, here⟩ := standsWhole_split read.1
        obtain ⟨same, bare⟩ := token_eq_of_isLegible passed (x :: left) fresh starts fit ends here
          read.2
        have size : name.length = left.length + 1 := by rw [← same, List.length_cons]
        rw [if_neg (by omega)] at tail
        rw [if_pos read.1, List.filter_cons_of_pos read.2, List.filter_nil, List.length_singleton,
          if_pos ⟨Nat.le_of_eq (congrArg List.length same.symm), bare⟩]
        omega
      · have passes : (if standsWhole isPart name (before ++ passed) (x :: (left ++ rest)) then
            [(before ++ passed, (x :: (left ++ rest)).drop name.length)] else []).filter
              (isLegible name) = [] := by
          split
          · next stands =>
              rw [List.filter_cons_of_neg fun legible => read ⟨stands, legible⟩, List.filter_nil]
          · rfl
        rw [passes, List.length_nil, List.length_cons]
        split at tail
        · next counted =>
            rw [if_pos ⟨by omega, counted.2⟩]
            omega
        · omega

theorem head?_dropWhile_isRest (text : List Char) :
    (text.dropWhile isRest).head?.any isRest = false := by
  have stopped := List.head?_dropWhile_not isRest text
  cases following : (text.dropWhile isRest).head? with
  | none => rfl
  | some y =>
      rw [following] at stopped
      simpa using stopped

/-- Where no token has begun and none begins, no use is legible. -/
theorem no_legible_at {isPart : Char → Bool} {name before rest : List Char} {x : Char}
    (other : ¬ isStart x = true) (fresh : isRest x = true → begun before = []) :
    (if standsWhole isPart name before (x :: rest) then
      [(before, (x :: rest).drop name.length)] else []).filter (isLegible name) = [] := by
  split
  · next stands =>
      obtain ⟨filled, here⟩ := standsWhole_split stands
      refine List.filter_cons_of_neg fun read => ?_
      simp only [isLegible, Bool.and_eq_true, Bool.not_eq_true', List.all_eq_true] at read
      obtain ⟨⟨⟨fitName, -⟩, -, opens⟩, -⟩ := read
      cases name with
      | nil => exact filled rfl
      | cons first more =>
          obtain ⟨rfl, -⟩ := List.cons.inj here
          have none : begun before = [] := fresh (fitName x List.mem_cons_self)
          rw [none] at opens
          exact other opens
  · rfl

/-- Every legible use is a token. The text begins where no token has begun, or where none goes on. -/
theorem legible_le_names {isPart : Char → Bool} {name : List Char} (before text : List Char)
    (fresh : text.head?.any isRest = true → begun before = []) :
    ((wholeUsesFrom isPart name before text).filter (isLegible name)).length ≤
      (names text).countP fun token => bareName token == bareName name := by
  fun_induction names text generalizing before with
  | case1 => exact Nat.le_refl 0
  | case2 x rest starts ih =>
      have split : x :: rest = (x :: rest.takeWhile isRest) ++ rest.dropWhile isRest := by
        rw [List.cons_append, List.takeWhile_append_dropWhile]
      have fit : ∀ y ∈ [] ++ (x :: rest.takeWhile isRest), isRest y = true := by
        intro y member
        rcases List.mem_cons.mp member with rfl | inner
        · exact isRest_of_isStart starts
        · exact List.all_eq_true.mp List.all_takeWhile y inner
      have ends := head?_dropWhile_isRest rest
      have none : begun before = [] := fresh (isRest_of_isStart starts)
      have first := legible_in_token isPart name [] (x :: rest.takeWhile isRest) none starts fit ends
      rw [List.append_nil, List.nil_append, ← split] at first
      have later := ih (before ++ (x :: rest.takeWhile isRest))
        fun more => by rw [ends] at more; cases more
      rw [List.countP_cons]
      split at first
      · next counted =>
          rw [if_pos (beq_iff_eq.mpr counted.2)]
          omega
      · omega
  | case3 x rest other ih =>
      rw [wholeUsesFrom, List.filter_append, no_legible_at other fresh, List.nil_append]
      refine ih (before ++ [x]) ?_
      intro _
      by_cases inner : isRest x = true
      · rw [begun_append_of_all (fresh inner) (by simpa using inner)]
        simp [other]
      · exact begun_append_other (by simpa using inner)

/-- Whether no word character stands before a use, dollar signs directly in front of it apart, and no
dollar sign behind it. -/
def standsClear (use : List Char × List Char) : Bool :=
  !(use.1.reverse.dropWhile (· == '$')).head?.any isWord && use.2.head? != some '$'

theorem dollars_of_clear {text : List Char}
    (clear : (text.dropWhile (· == '$')).head?.any isWord = false) :
    ∀ x ∈ text.takeWhile isRest, x = '$' := by
  induction text with
  | nil => simp
  | cons x rest ih =>
      by_cases dollar : x = '$'
      · subst dollar
        rw [List.takeWhile_cons_of_pos (by decide)]
        intro y member
        rcases List.mem_cons.mp member with rfl | later
        · rfl
        · exact ih clear y later
      · rw [List.dropWhile_cons_of_neg (by simpa using dollar)] at clear
        have other : isWord x = false := clear
        rw [List.takeWhile_cons_of_neg (by simp [isRest, other, dollar])]
        simp

/-- Where the dollar sign belongs to names, every use stands clear of other ones. -/
theorem standsClear_of_dollar {family : Family} (dollar : family = .ecmascript ∨ family = .java)
    {name : List Char} {lines : List (List Char)} {use : List Char × List Char}
    (member : use ∈ wholeUses family name lines) : standsClear use = true := by
  obtain ⟨line, -, inLine⟩ := List.mem_flatMap.mp member
  have parts : family.isIdentifierChar = isRest := by rcases dollar with rfl | rfl <;> rfl
  rw [parts] at inLine
  obtain ⟨left, right⟩ := neighbours_of_mem inLine
  have front : (use.1.reverse.dropWhile (· == '$')).head?.any isWord = false := by
    rw [← List.head?_reverse] at left
    cases back : use.1.reverse with
    | nil => rfl
    | cons x more =>
        rw [back, List.head?_cons, Option.any_some, isRest, Bool.or_eq_false_iff] at left
        rw [List.dropWhile_cons_of_neg (by simp [left.2])]
        exact left.1
  have behind : use.2.head? ≠ some '$' := by
    intro next
    rw [next] at right
    cases right
  simp [standsClear, front, behind]

/-- A name that begins as a token and is more than dollar signs is legible where it stands clear. -/
theorem isLegible_of_standsClear {family : Family} {name : List Char}
    (isName : Name.isName name = true) (visible : bareName name ≠ [])
    {lines : List (List Char)} {use : List Char × List Char}
    (member : use ∈ wholeUses family name lines) (clear : standsClear use = true) :
    isLegible name use = true := by
  obtain ⟨line, -, inLine⟩ := List.mem_flatMap.mp member
  obtain ⟨-, right⟩ := neighbours_of_mem inLine
  simp only [standsClear, Bool.and_eq_true, Bool.not_eq_true', bne_iff_ne, ne_eq] at clear
  obtain ⟨front, behind⟩ := clear
  have dollars : (begun use.1).all (· == '$') = true := by
    rw [List.all_eq_true]
    intro x inBegun
    have inRun := List.mem_reverse.mp ((List.dropWhile_sublist _).subset inBegun)
    exact beq_iff_eq.mpr (dollars_of_clear front x inRun)
  have ended : use.2.head?.any isRest = false := by
    cases next : use.2.head? with
    | none => rfl
    | some x =>
        rw [next] at right behind
        have other : isWord x = false := family.isWord_of_isIdentifierChar right
        have noDollar : x ≠ '$' := fun same => behind (by rw [same])
        simp [isRest, other, noDollar]
  cases name with
  | nil => cases isName
  | cons first more =>
      rw [Name.isName, Bool.and_eq_true] at isName
      have fit := isRest_of_isStart isName.1
      simp [isLegible, dollars, visible, ended, isName.1, isName.2, fit]

/-- Counting tokens finds every legible use. -/
theorem legible_le_tokens (family : Family) (name : List Char) (lines : List (List Char)) :
    ((wholeUses family name lines).filter (isLegible name)).length ≤
      (tokens lines).count (bareName name) := by
  induction lines with
  | nil => exact Nat.le_refl 0
  | cons line lines ih =>
      rw [wholeUses, List.flatMap_cons, List.filter_append, List.length_append, tokens,
        List.flatMap_cons, List.count_append]
      refine Nat.add_le_add ?_ ih
      by_cases visible : bareName name = []
      · have none : ∀ use : List Char × List Char, ¬ isLegible name use = true := by
          simp [isLegible, visible]
        rw [List.filter_eq_nil_iff.mpr fun use _ => none use]
        exact Nat.zero_le _
      · rw [count_lineTokens line visible]
        exact legible_le_names [] line fun _ => rfl

end Source

end CodeSurvey
