import CodeSurvey.Proofs.Text.Parts
import CodeSurvey.Text.Blank

set_option autoImplicit false

namespace CodeSurvey.Text

/-- The second character of a mark can stand with the part behind it. -/
theorem joinWith_pair (mark other : Char) (first : List Char) (rest : List (List Char)) :
    joinWith [mark, other] (first :: rest) = joinWith [mark] (first :: rest.map (other :: ·)) := by
  induction rest generalizing first with
  | nil => rw [List.map_nil, joinWith_singleton, joinWith_singleton]
  | cons second rest ih =>
      have later := ih second
      rw [List.map_cons, joinWith_cons, joinWith_cons, later]
      cases rest with
      | nil => simp [joinWith_singleton]
      | cons third rest => simp [joinWith_cons]

/-! Words. -/

theorem isBlank_space : ∀ c ∈ [' '], isBlank c = true :=
  List.forall_mem_singleton.mpr (by decide)

/-- One more character in front of a text whose words are known. -/
def wordStep (c : Char) (found : List (List Char) × Bool) : List (List Char) × Bool :=
  if isBlank c then (found.1, false)
  else
    match found with
    | (first :: more, true) => ((c :: first) :: more, true)
    | (all, _) => ([c] :: all, true)

theorem wordStep_of_isBlank {c : Char} (blank : isBlank c = true) (found : List (List Char) × Bool) :
    wordStep c found = (found.1, false) :=
  if_pos blank

theorem words_eq (text : List Char) : words text = (text.foldr wordStep ([], false)).1 :=
  rfl

/-- A word: some characters, and no blank among them. -/
structure IsSolid (word : List Char) : Prop where
  filled : word ≠ []
  solid : ∀ c ∈ word, isBlank c = false

/-- Characters in front of a text that begins with a blank are one word. -/
theorem foldr_wordStep {word : List Char} (isSolid : IsSolid word) (behind : List (List Char)) :
    word.foldr wordStep (behind, false) = (word :: behind, true) := by
  obtain ⟨filled, solid⟩ := isSolid
  induction word with
  | nil => exact absurd rfl filled
  | cons c rest ih =>
      have first : isBlank c = false := solid c List.mem_cons_self
      rw [List.foldr_cons]
      cases rest with
      | nil => simp [wordStep, first]
      | cons d rest =>
          rw [ih (List.cons_ne_nil d rest) fun c member => solid c (List.mem_cons_of_mem _ member)]
          simp [wordStep, first]

theorem words_joinWith {parts : List (List Char)} (solid : ∀ part ∈ parts, IsSolid part) :
    words (joinWith [' '] parts) = parts := by
  rw [words_eq]
  induction parts with
  | nil => rfl
  | cons first rest ih =>
      have here := solid first List.mem_cons_self
      cases rest with
      | nil => rw [joinWith_singleton, foldr_wordStep here]
      | cons second rest =>
          have later := ih fun part member => solid part (List.mem_cons_of_mem _ member)
          rw [joinWith_cons, List.foldr_append, List.singleton_append, List.foldr_cons,
            wordStep_of_isBlank (by decide), later, foldr_wordStep here]

/-! The ends of a text. -/

/-- A text that neither begins nor ends with a character to be dropped. -/
structure IsTrimmed (drop : Char → Bool) (text : List Char) : Prop where
  first : ∀ c ∈ text.head?, drop c = false
  final : ∀ c ∈ text.getLast?, drop c = false

section Trimmed

variable {drop : Char → Bool} {text front back : List Char}

theorem IsTrimmed.of_forall (kept : ∀ c ∈ text, drop c = false) : IsTrimmed drop text :=
  ⟨fun c first => kept c (List.mem_of_head? first), fun c final => kept c (List.mem_of_getLast? final)⟩

theorem IsTrimmed.singleton {c : Char} (kept : drop c = false) : IsTrimmed drop [c] :=
  .of_forall (List.forall_mem_singleton.mpr kept)

theorem IsTrimmed.nil (drop : Char → Bool) : IsTrimmed drop [] :=
  .of_forall (List.forall_mem_nil _)

theorem IsTrimmed.stops (trimmed : IsTrimmed drop text) (filled : text ≠ []) {allowed : Char → Bool}
    (apart : ∀ c, allowed c = true → drop c = true) (behind : List Char) :
    (text ++ behind).head?.any allowed = false := by
  obtain ⟨c, rest, rfl⟩ := List.exists_cons_of_ne_nil filled
  show allowed c = false
  cases fits : allowed c with
  | false => rfl
  | true => rw [← trimmed.first c rfl, apart c fits]

/-- What stands between two texts is not at an end. -/
theorem IsTrimmed.append (before : IsTrimmed drop front) (behind : IsTrimmed drop back)
    (begins : front ≠ []) (ends : back ≠ []) (between : List Char) :
    IsTrimmed drop (front ++ (between ++ back)) := by
  constructor
  · intro c first
    rw [List.head?_append, List.head?_eq_some_head begins, Option.some_or,
      ← List.head?_eq_some_head begins] at first
    exact before.first c first
  · intro c final
    rw [← List.append_assoc, List.getLast?_append, List.getLast?_eq_some_getLast ends, Option.some_or,
      ← List.getLast?_eq_some_getLast ends] at final
    exact behind.final c final

theorem IsTrimmed.joinWith {mark : List Char} {parts : List (List Char)}
    (trimmed : ∀ part ∈ parts, part ≠ [] ∧ IsTrimmed drop part) :
    IsTrimmed drop (joinWith mark parts) ∧ (parts ≠ [] → Text.joinWith mark parts ≠ []) := by
  induction parts with
  | nil => exact ⟨.nil drop, fun some => absurd rfl some⟩
  | cons first rest ih =>
      obtain ⟨filled, here⟩ := trimmed first List.mem_cons_self
      cases rest with
      | nil =>
          rw [joinWith_singleton]
          exact ⟨here, fun _ => filled⟩
      | cons second rest =>
          obtain ⟨later, more⟩ := ih fun part member => trimmed part (List.mem_cons_of_mem _ member)
          rw [joinWith_cons]
          refine ⟨here.append later filled (more (List.cons_ne_nil _ _)) mark, fun _ none => ?_⟩
          exact filled (List.append_eq_nil_iff.mp none).1

theorem dropWhile_of_first (first : ∀ c ∈ text.head?, drop c = false) : text.dropWhile drop = text := by
  cases text with
  | nil => rfl
  | cons c rest => rw [List.dropWhile_cons_of_neg (by rw [first c rfl]; exact Bool.false_ne_true)]

theorem trimOf_append (before : ∀ c ∈ front, drop c = true) (behind : ∀ c ∈ back, drop c = true)
    (trimmed : IsTrimmed drop text) : trimOf drop (front ++ (text ++ back)) = text := by
  rw [trimOf, List.dropWhile_append_of_pos before, dropEndWhile]
  by_cases none : text = []
  · have gone : back.dropWhile drop = [] := by
      rw [← List.append_nil back, List.dropWhile_append_of_pos behind]
      rfl
    rw [none, List.nil_append, gone]
    rfl
  · have start : ∀ c ∈ (text ++ back).head?, drop c = false := by
      rw [List.head?_append, List.head?_eq_some_head none, Option.some_or,
        ← List.head?_eq_some_head none]
      exact trimmed.first
    have stop : ∀ c ∈ text.reverse.head?, drop c = false := by
      rw [List.head?_reverse]
      exact trimmed.final
    rw [dropWhile_of_first start, List.reverse_append, List.dropWhile_append_of_pos
      (fun c member => behind c (List.mem_reverse.mp member)), dropWhile_of_first stop,
      List.reverse_reverse]

theorem trimOf_self (trimmed : IsTrimmed drop text) : trimOf drop text = text := by
  have bare := trimOf_append (List.forall_mem_nil _) (List.forall_mem_nil _) trimmed
  rwa [List.append_nil] at bare

/-- A text that is its own trimmed text does not end with a blank. -/
theorem final_of_trim_eq (same : trim text = text) : ∀ c ∈ text.getLast?, isBlank c = false := by
  intro c final
  rw [← same, trim, trimEnd, dropEndWhile, List.getLast?_reverse] at final
  have kept := List.head?_dropWhile_not isBlank (trimStart text).reverse
  rw [Option.mem_def.mp final] at kept
  exact kept

end Trimmed

end CodeSurvey.Text
