import CodeSurvey.Language.Name
import CodeSurvey.Proofs.Text.Blanks
import CodeSurvey.Proofs.Text.Classes
import CodeSurvey.Proofs.Text.Words

set_option autoImplicit false

namespace CodeSurvey.Name

open Text

/-- Characters of names and of dotted paths. -/
def isPlain (c : Char) : Bool :=
  isRest c || c == '.'

theorem isPlain_of_isBlank {c : Char} (blank : isBlank c = true) : isPlain c = false := by
  rw [isPlain, isRest_of_isBlank blank, Bool.false_or]
  exact beq_eq_false_iff_ne.mpr (ne_of_kind blank (by decide))

theorem isPlain_of_isWord {c : Char} (word : isWord c = true) : isPlain c = true := by
  rw [isPlain, isRest, word]
  rfl

/-- A name or a dotted path. -/
structure IsPlain (word : List Char) : Prop where
  filled : word ≠ []
  plain : ∀ c ∈ word, isPlain c = true

theorem IsPlain.isSolid {word : List Char} (plain : IsPlain word) : IsSolid word := by
  refine ⟨plain.filled, ?_⟩
  intro c member
  cases blank : isBlank c with
  | false => rfl
  | true => rw [← plain.plain c member, isPlain_of_isBlank blank]

theorem IsPlain.trimmed {word : List Char} (plain : IsPlain word) : IsTrimmed isBlank word :=
  .of_forall plain.isSolid.solid

theorem IsPlain.stops {word : List Char} (plain : IsPlain word) {allowed : Char → Bool}
    (apart : ∀ c, allowed c = true → isBlank c = true) (behind : List Char) :
    (word ++ behind).head?.any allowed = false :=
  plain.trimmed.stops plain.filled apart behind

/-- A name as it is written in a list, with a new name or without one. -/
def phrase (name : List Char) : Option (List Char) → List Char
  | none => name
  | some newName => name ++ (" as ".toList ++ newName)

section Phrase

variable {name : List Char} {newName : Option (List Char)}

def phraseWords (name : List Char) (newName : Option (List Char)) : List (List Char) :=
  name :: newName.elim [] fun newName => ["as".toList, newName]

theorem phrase_eq (name : List Char) (newName : Option (List Char)) :
    phrase name newName = joinWith [' '] (phraseWords name newName) := by
  cases newName with
  | none => exact (joinWith_singleton name).symm
  | some newName => simp [phrase, phraseWords, joinWith_cons, joinWith_singleton]

theorem plain_phraseWords (plain : IsPlain name) (renamed : ∀ other ∈ newName, IsPlain other) :
    ∀ word ∈ phraseWords name newName, IsPlain word := by
  have asPlain : IsPlain "as".toList := ⟨by decide, List.all_eq_true.mp (by decide)⟩
  intro word member
  cases newName with
  | none =>
      rw [List.mem_singleton.mp member]
      exact plain
  | some other =>
      simp only [phraseWords, Option.elim_some, List.mem_cons, List.not_mem_nil, or_false] at member
      rcases member with rfl | rfl | rfl
      · exact plain
      · exact asPlain
      · exact renamed word rfl

theorem words_phrase (plain : IsPlain name) (renamed : ∀ other ∈ newName, IsPlain other) :
    words (phrase name newName) = phraseWords name newName := by
  rw [phrase_eq]
  exact words_joinWith fun word member => (plain_phraseWords plain renamed word member).isSolid

theorem localName_phrase (plain : IsPlain name) (renamed : ∀ other ∈ newName, IsPlain other) :
    localName (phrase name newName) = newName.getD name := by
  rw [localName, words_phrase plain renamed]
  cases newName <;> rfl

theorem localModule_phrase (plain : IsPlain name) (renamed : ∀ other ∈ newName, IsPlain other) :
    localModule (phrase name newName) = newName.getD (firstComponent name) := by
  rw [localModule, words_phrase plain renamed]
  cases newName <;> rfl

end Phrase

/-- Words with a space between neighbours. -/
structure IsItem (item : List Char) : Prop where
  filled : item ≠ []
  trimmed : IsTrimmed isBlank item
  spaced : ∀ c ∈ item, isPlain c = true ∨ c = ' '

theorem IsItem.of_words {parts : List (List Char)} (some : parts ≠ [])
    (plain : ∀ part ∈ parts, IsPlain part) : IsItem (joinWith [' '] parts) := by
  have ends : ∀ part ∈ parts, part ≠ [] ∧ IsTrimmed isBlank part := fun part member =>
    ⟨(plain part member).filled, (plain part member).trimmed⟩
  refine ⟨(IsTrimmed.joinWith ends).2 some, (IsTrimmed.joinWith ends).1, ?_⟩
  intro c member
  rcases mem_joinWith member with space | ⟨part, inside, holds⟩
  · exact .inr (List.mem_singleton.mp space)
  · exact .inl ((plain part inside).plain c holds)

theorem IsItem.phrase {name : List Char} {newName : Option (List Char)} (plain : IsPlain name)
    (renamed : ∀ other ∈ newName, IsPlain other) : IsItem (phrase name newName) := by
  rw [phrase_eq]
  exact .of_words (List.cons_ne_nil _ _) (plain_phraseWords plain renamed)

/-- A list as it is written, with nothing around it. -/
def inCommas (parts : List (List Char)) : List Char :=
  joinWith [',', ' '] parts

theorem inCommas_cons (first : List Char) (rest : List (List Char)) :
    inCommas (first :: rest) = first ++ (rest.map ([',', ' '] ++ ·)).flatten := by
  induction rest generalizing first with
  | nil => simp [inCommas, joinWith_singleton]
  | cons second rest ih =>
      have later := ih second
      rw [inCommas] at later ⊢
      rw [joinWith_cons, later, List.map_cons, List.flatten_cons, List.append_assoc]

section Items

variable {parts : List (List Char)} {front back : List Char}

theorem mem_inCommas (each : ∀ part ∈ parts, IsItem part) {c : Char} (member : c ∈ inCommas parts) :
    isPlain c = true ∨ c = ' ' ∨ c = ',' := by
  rcases mem_joinWith member with between | ⟨part, inside, holds⟩
  · simp only [List.mem_cons, List.not_mem_nil, or_false] at between
    exact .inr between.symm
  · rcases (each part inside).spaced c holds with plain | space
    · exact .inl plain
    · exact .inr (.inl space)

theorem not_mem_inCommas (each : ∀ part ∈ parts, IsItem part) {mark : Char}
    (other : isPlain mark = false) (space : mark ≠ ' ') (comma : mark ≠ ',') :
    mark ∉ inCommas parts := by
  intro member
  rcases mem_inCommas each member with plain | same | same
  · exact ne_of_kind plain other rfl
  · exact space same
  · exact comma same

theorem trimmed_inCommas (each : ∀ part ∈ parts, IsItem part) :
    IsTrimmed isBlank (inCommas parts) ∧ (parts ≠ [] → inCommas parts ≠ []) :=
  IsTrimmed.joinWith fun part member => ⟨(each part member).filled, (each part member).trimmed⟩

/-- Parentheses are no part of an item. -/
theorem trimmed_of_parens (each : ∀ part ∈ parts, IsItem part) :
    IsTrimmed (fun c => c == '(' || c == ')') (inCommas parts) := by
  apply IsTrimmed.of_forall
  intro c member
  rcases mem_inCommas each member with plain | rfl | rfl
  · rw [Bool.or_eq_false_iff, beq_eq_false_iff_ne, beq_eq_false_iff_ne]
    exact ⟨ne_of_kind plain (by decide), ne_of_kind plain (by decide)⟩
  · rfl
  · rfl

/-- The items are read back once the list is bare. -/
theorem items_of_bare {list : List Char} (each : ∀ part ∈ parts, IsItem part)
    (bare : trimOf (fun c => c == '(' || c == ')') (trim list) = inCommas parts) :
    items list = parts := by
  rw [items, bare, inCommas]
  cases parts with
  | nil => rfl
  | cons first rest =>
      have own : ∀ part ∈ first :: rest, trim part = part := fun part member =>
        trimOf_self (each part member).trimmed
      have free : ∀ part ∈ first :: rest.map (' ' :: ·), ',' ∉ part := by
        have comma : ∀ part ∈ first :: rest, ',' ∉ part := by
          intro part member inside
          rcases (each part member).spaced ',' inside with plain | space
          · exact absurd plain (by decide)
          · exact absurd space (by decide)
        intro part member
        rcases List.mem_cons.mp member with rfl | later
        · exact comma part List.mem_cons_self
        · obtain ⟨other, inRest, rfl⟩ := List.mem_map.mp later
          have none := comma other (List.mem_cons_of_mem _ inRest)
          simpa using none
      have trimmed : (rest.map (' ' :: ·)).map trim = rest := by
        rw [List.map_map]
        refine (List.map_congr_left ?_).trans (List.map_id rest)
        intro part member
        exact (trim_space_cons part).trans (own part (List.mem_cons_of_mem _ member))
      rw [joinWith_pair, splitAt_joinWith (List.cons_ne_nil _ _) free, List.map_cons, trimmed,
        own first List.mem_cons_self]
      apply List.filter_eq_self.mpr
      intro part member
      simpa using (each part member).filled

theorem items_padded (each : ∀ part ∈ parts, IsItem part) (before : ∀ c ∈ front, isBlank c = true)
    (behind : ∀ c ∈ back, isBlank c = true) :
    items (front ++ (inCommas parts ++ back)) = parts := by
  have inner : trim (front ++ (inCommas parts ++ back)) = inCommas parts :=
    trimOf_append before behind (trimmed_inCommas each).1
  apply items_of_bare each
  rw [inner]
  exact trimOf_self (trimmed_of_parens each)

theorem items_inCommas (each : ∀ part ∈ parts, IsItem part) (behind : ∀ c ∈ back, isBlank c = true) :
    items (inCommas parts ++ back) = parts := by
  have padded := items_padded each (List.forall_mem_nil _) behind
  rwa [List.nil_append] at padded

theorem items_in_parens (each : ∀ part ∈ parts, IsItem part) (behind : ∀ c ∈ back, isBlank c = true) :
    items ('(' :: (inCommas parts ++ ')' :: back)) = parts := by
  have closed : IsTrimmed isBlank (['('] ++ (inCommas parts ++ [')'])) :=
    IsTrimmed.append (.singleton (by decide)) (.singleton (by decide)) (by decide) (by decide) _
  have inner : trim (['('] ++ (inCommas parts ++ [')']) ++ back) = ['('] ++ (inCommas parts ++ [')']) :=
    trimOf_append (List.forall_mem_nil _) behind closed
  apply items_of_bare each
  have whole : '(' :: (inCommas parts ++ ')' :: back) = ['('] ++ (inCommas parts ++ [')']) ++ back := by
    simp
  rw [whole, inner]
  exact trimOf_append (List.forall_mem_singleton.mpr rfl) (List.forall_mem_singleton.mpr rfl)
    (trimmed_of_parens each)

end Items

end CodeSurvey.Name
