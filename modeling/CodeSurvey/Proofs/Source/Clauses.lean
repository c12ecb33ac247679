import CodeSurvey.Language.Binding
import CodeSurvey.Proofs.Pattern.Reading
import CodeSurvey.Proofs.Source.NameLists

set_option autoImplicit false

namespace CodeSurvey.Source

open Text Pattern Name

structure ClauseName where
  text : List Char
  valid : isName text = true

/-- An item in braces, which is marked as a type or not and has a new name or none. -/
structure ClauseItem where
  typed : Bool
  name : ClauseName
  newName : Option ClauseName
  clear : name.text ≠ "type".toList

def ClauseItem.text (item : ClauseItem) : List Char :=
  (if item.typed then "type ".toList else []) ++
    phrase item.name.text (item.newName.map (·.text))

/-- A module as a whole under one name, or items of it in braces. -/
inductive Bundle where
  | whole (name : ClauseName)
  | braces (lead : Nat) (items : List ClauseItem) (trail : Nat)

namespace Bundle

/-- What stands between the braces. -/
def inner (lead : Nat) (items : List ClauseItem) (trail : Nat) : List Char :=
  List.replicate lead ' ' ++ (inCommas (items.map (·.text)) ++ List.replicate trail ' ')

def text : Bundle → List Char
  | .whole name => "* as ".toList ++ name.text
  | .braces lead items trail => '\x7b' :: inner lead items trail ++ ['\x7d']

def localNames : Bundle → List (List Char)
  | .whole name => [name.text]
  | .braces _ items _ => items.map fun item => (item.newName.getD item.name).text

end Bundle

/-- What stands between `import` and `from`. -/
inductive Clause where
  | single (name : ClauseName)
  | only (rest : Bundle)
  | both (name : ClauseName) (rest : Bundle)

namespace Clause

def text : Clause → List Char
  | .single name => name.text
  | .only rest => rest.text
  | .both name rest => name.text ++ (", ".toList ++ rest.text)

def localNames : Clause → List (List Char)
  | .single name => [name.text]
  | .only rest => rest.localNames
  | .both name rest => rest.localNames ++ [name.text]

end Clause

/-! The parts of a clause. -/

theorem isPlain_of_isRest {c : Char} (rest : isRest c = true) : isPlain c = true := by
  rw [isPlain, rest]
  rfl

/-- Some characters of names. -/
structure IsClauseWord (word : List Char) : Prop where
  filled : word ≠ []
  rest : ∀ c ∈ word, isRest c = true

theorem IsClauseWord.isPlain {word : List Char} (named : IsClauseWord word) : IsPlain word :=
  ⟨named.filled, fun c member => isPlain_of_isRest (named.rest c member)⟩

theorem ClauseName.isWord (name : ClauseName) : IsClauseWord name.text := by
  have valid := name.valid
  cases text : name.text with
  | nil =>
      rw [text] at valid
      cases valid
  | cons first more =>
      rw [text, isName, Bool.and_eq_true] at valid
      refine ⟨List.cons_ne_nil first more, ?_⟩
      intro c member
      rcases List.mem_cons.mp member with rfl | later
      · exact isRest_of_isStart valid.1
      · exact List.all_eq_true.mp valid.2 c later

namespace ClauseItem

def words (item : ClauseItem) : List (List Char) :=
  (if item.typed then ["type".toList] else []) ++
    phraseWords item.name.text (item.newName.map (·.text))

theorem isPlain_newName (item : ClauseItem) : ∀ other ∈ item.newName.map (·.text), IsPlain other := by
  intro other member
  obtain ⟨name, -, rfl⟩ := Option.map_eq_some_iff.mp member
  exact name.isWord.isPlain

theorem text_eq (item : ClauseItem) : item.text = joinWith [' '] item.words := by
  rw [text, words, phrase_eq]
  cases item.typed with
  | false => rfl
  | true =>
      show "type ".toList ++ _ = joinWith [' '] ("type".toList :: phraseWords _ _)
      rw [phraseWords, joinWith_cons]
      rfl

theorem isWord_words (item : ClauseItem) : ∀ word ∈ item.words, IsClauseWord word := by
  have marks : IsClauseWord "type".toList ∧ IsClauseWord "as".toList :=
    ⟨⟨by decide, List.all_eq_true.mp (by decide)⟩, ⟨by decide, List.all_eq_true.mp (by decide)⟩⟩
  intro word member
  rcases List.mem_append.mp member with typed | inPhrase
  · cases marked : item.typed with
    | false =>
        rw [marked] at typed
        cases typed
    | true =>
        rw [marked] at typed
        rw [List.mem_singleton.mp typed]
        exact marks.1
  · rw [phraseWords, List.mem_cons] at inPhrase
    rcases inPhrase with rfl | renamed
    · exact item.name.isWord
    · cases newName : item.newName with
      | none =>
          rw [newName] at renamed
          cases renamed
      | some name =>
          rw [newName] at renamed
          rcases List.mem_cons.mp renamed with rfl | last
          · exact marks.2
          · rw [List.mem_singleton.mp last]
            exact name.isWord

theorem isItem (item : ClauseItem) : IsItem item.text := by
  rw [text_eq]
  refine .of_words ?_ fun word member => (item.isWord_words word member).isPlain
  rw [words, phraseWords]
  exact List.append_ne_nil_of_right_ne_nil _ (List.cons_ne_nil _ _)

theorem mem_text {item : ClauseItem} {c : Char} (member : c ∈ item.text) :
    isRest c = true ∨ c = ' ' := by
  rw [text_eq] at member
  rcases mem_joinWith member with space | ⟨word, inside, holds⟩
  · exact .inr (List.mem_singleton.mp space)
  · exact .inl ((item.isWord_words word inside).rest c holds)

end ClauseItem

def isClauseChar (c : Char) : Bool :=
  isRest c || [' ', ',', '*', '\x7b', '\x7d'].contains c

theorem isClauseChar_of_isRest {c : Char} (rest : isRest c = true) : isClauseChar c = true := by
  rw [isClauseChar, rest]
  rfl

theorem Bundle.mem_text {rest : Bundle} {c : Char} (member : c ∈ rest.text) :
    isClauseChar c = true := by
  cases rest with
  | whole name =>
      have letters : ∀ letter ∈ "* as ".toList, isClauseChar letter = true :=
        List.all_eq_true.mp (by decide +kernel)
      rcases List.mem_append.mp member with start | inName
      · exact letters c start
      · exact isClauseChar_of_isRest (name.isWord.rest c inName)
  | braces lead items trail =>
      have marks : ∀ mark ∈ [',', ' ', '\x7b', '\x7d'], isClauseChar mark = true :=
        List.all_eq_true.mp (by decide +kernel)
      have space : ∀ n, c ∈ List.replicate n ' ' → isClauseChar c = true := by
        intro n inside
        exact marks c (by rw [(List.mem_replicate.mp inside).2]; decide)
      have list : c ∈ inCommas (items.map (·.text)) → isClauseChar c = true := by
        intro inside
        rcases mem_joinWith inside with between | ⟨part, inList, holds⟩
        · exact marks c (List.mem_append_left ['\x7b', '\x7d'] between)
        · obtain ⟨item, -, rfl⟩ := List.mem_map.mp inList
          rcases ClauseItem.mem_text holds with named | rfl
          · exact isClauseChar_of_isRest named
          · exact marks ' ' (by decide)
      rw [text, inner, List.mem_append, List.mem_cons, List.mem_append, List.mem_append] at member
      rcases member with (opening | leading | listed | trailing) | closing
      · exact marks c (by rw [opening]; decide)
      · exact space lead leading
      · exact list listed
      · exact space trail trailing
      · exact marks c (by rw [List.mem_singleton.mp closing]; decide)

theorem Bundle.trimmed (rest : Bundle) : rest.text ≠ [] ∧ IsTrimmed isBlank rest.text := by
  have marks : IsTrimmed isBlank ['*'] ∧ IsTrimmed isBlank ['\x7b'] ∧ IsTrimmed isBlank ['\x7d'] :=
    ⟨.singleton (by decide), .singleton (by decide), .singleton (by decide)⟩
  cases rest with
  | whole name =>
      exact ⟨List.cons_ne_nil _ _, marks.1.append name.isWord.isPlain.trimmed (List.cons_ne_nil _ _)
        name.isWord.filled " as ".toList⟩
  | braces lead items trail =>
      exact ⟨List.cons_ne_nil _ _, marks.2.1.append marks.2.2 (List.cons_ne_nil _ _)
        (List.cons_ne_nil _ _) _⟩

namespace Clause

theorem mem_text {clause : Clause} {c : Char} (member : c ∈ clause.text) :
    isClauseChar c = true := by
  cases clause with
  | single name => exact isClauseChar_of_isRest (name.isWord.rest c member)
  | only rest => exact Bundle.mem_text member
  | both name rest =>
      rcases List.mem_append.mp member with inName | behind
      · exact isClauseChar_of_isRest (name.isWord.rest c inName)
      · have marks : ∀ mark ∈ ", ".toList, isClauseChar mark = true :=
          List.all_eq_true.mp (by decide +kernel)
        rcases List.mem_append.mp behind with between | inRest
        · exact marks c between
        · exact Bundle.mem_text inRest

theorem trimmed (clause : Clause) : clause.text ≠ [] ∧ IsTrimmed isBlank clause.text := by
  cases clause with
  | single name => exact ⟨name.isWord.filled, name.isWord.isPlain.trimmed⟩
  | only rest => exact rest.trimmed
  | both name rest =>
      exact ⟨List.append_ne_nil_of_left_ne_nil name.isWord.filled _,
        name.isWord.isPlain.trimmed.append rest.trimmed.2 name.isWord.filled rest.trimmed.1 _⟩

theorem not_mem_text (clause : Clause) {mark : Char} (other : isClauseChar mark = false) :
    mark ∉ clause.text :=
  not_mem_of_kind (fun _ => mem_text) other

theorem isClause (clause : Clause) : ∀ c ∈ clause.text, Import.isClause c = true := by
  have marks : ∀ mark ∈ ['$', ' ', ',', '*', '\x7b', '\x7d'], Import.isClause mark = true :=
    List.all_eq_true.mp (by decide +kernel)
  intro c member
  have known := mem_text member
  rw [isClauseChar, isRest, Bool.or_eq_true, Bool.or_eq_true, beq_iff_eq, List.contains_iff_mem] at known
  rcases known with (word | rfl) | listed
  · rw [Import.isClause, word]
    rfl
  · exact marks '$' List.mem_cons_self
  · exact marks c (List.mem_cons_of_mem '$' listed)

/-- A blank does not come next behind the first name of a clause. -/
theorem next_solid (clause : Clause) : ∀ c ∈ (clause.text.dropWhile isRest).head?, isBlank c = false := by
  have behind : ∀ (name : ClauseName) (tail : List Char),
      (name.text ++ tail).dropWhile isRest = tail.dropWhile isRest := fun name tail =>
    List.dropWhile_append_of_pos name.isWord.rest
  have stops : ∀ mark : Char, isRest mark = false → isBlank mark = false → ∀ tail : List Char,
      ∀ c ∈ ((mark :: tail).dropWhile isRest).head?, isBlank c = false := by
    intro mark other solid tail c first
    rw [List.dropWhile_cons_of_neg (by rw [other]; exact Bool.false_ne_true)] at first
    cases first
    exact solid
  cases clause with
  | single name =>
      have whole := behind name []
      rw [List.append_nil] at whole
      rw [text, whole]
      intro c none
      cases none
  | only rest =>
      cases rest with
      | whole name => exact stops '*' (by decide) (by decide) _
      | braces lead items trail => exact stops '\x7b' (by decide) (by decide) _
  | both name rest =>
      rw [text, behind name]
      exact stops ',' (by decide) (by decide) _

theorem ne_type_blank (clause : Clause) {mark : Char} (blank : isBlank mark = true) (rest : List Char) :
    clause.text ≠ "type".toList ++ mark :: rest := by
  intro same
  have next : clause.text.dropWhile isRest = mark :: rest := by
    have letters : ∀ c ∈ "type".toList, isRest c = true := List.all_eq_true.mp (by decide)
    rw [same, List.dropWhile_append_of_pos letters, List.dropWhile_cons_of_neg]
    rw [isRest_of_isBlank blank]
    exact Bool.false_ne_true
  have solid := clause.next_solid mark (by rw [next]; rfl)
  rw [blank] at solid
  cases solid

end Clause

/-! How a clause is taken apart. -/

/-- The name that is left of a clause, if one is. -/
def leftNames (clause : List Char) : List (List Char) :=
  if isName (trim (trimOf (· == ',') (trim clause))) then [trim (trimOf (· == ',') (trim clause))] else []

section Search

variable {clause : List Char} {found : Found}

theorem ofClause_of_braces (braces : Binding.braced.search clause = some found)
    (star : Binding.namespaced.search (found.cutFrom clause) = none) :
    Binding.ofClause clause =
      ((items (found.part 1)).map fun item => localName (Binding.withoutType item)).filter isName ++
        leftNames (found.cutFrom clause) := by
  simp only [Binding.ofClause, braces, star, Option.elim_some, Option.elim_none, List.append_nil]
  rfl

theorem ofClause_of_star (braces : Binding.braced.search clause = none)
    (star : Binding.namespaced.search clause = some found) :
    Binding.ofClause clause = [found.part 1] ++ leftNames (found.cutFrom clause) := by
  simp only [Binding.ofClause, braces, star, Option.elim_some, Option.elim_none, List.nil_append]
  rfl

theorem ofClause_of_neither (braces : Binding.braced.search clause = none)
    (star : Binding.namespaced.search clause = none) : Binding.ofClause clause = leftNames clause := by
  simp only [Binding.ofClause, braces, star, Option.elim_none, List.nil_append]
  rfl

end Search

theorem cutFrom_append (front taken behind : List Char) (parts : List (Nat × List Char)) :
    Found.cutFrom ⟨front.length, front.length + taken.length, parts⟩ (front ++ (taken ++ behind)) =
      front ++ behind := by
  rw [Found.cutFrom, List.take_left, ← List.drop_drop, List.drop_left, List.drop_left]

theorem braced_opens : OpensWith Binding.braced (· = '\x7b') :=
  OpensWith.seq (OpensWith.char rfl)

theorem namespaced_opens : OpensWith Binding.namespaced (· = '*') :=
  OpensWith.seq (OpensWith.char rfl)

theorem ClauseName.reads (name : ClauseName) (last : Option Char) :
    Reads Name.pattern last name.text [] [] := by
  have valid := name.valid
  cases text : name.text with
  | nil =>
      rw [text] at valid
      cases valid
  | cons first more =>
      rw [text, isName, Bool.and_eq_true] at valid
      show Reads Name.pattern last ([first] ++ more) [] []
      exact (Reads.one valid.1).andThen (.span (List.all_eq_true.mp valid.2) (Nat.zero_le _) rfl)

theorem ClauseName.reads_namespaced (name : ClauseName) (last : Option Char) :
    Reads Binding.namespaced last (Bundle.whole name).text [] [(1, name.text)] := by
  have stops : (name.text ++ []).head?.any isBlank = false :=
    name.isWord.isPlain.stops (fun _ blank => blank) []
  show Reads Binding.namespaced last (['*'] ++ ([' '] ++ ("as".toList ++ ([' '] ++ name.text)))) [] _
  refine (Reads.char '*').andThen ?_
  refine (Reads.span isBlank_space (Nat.zero_le _) rfl).andThen ?_
  refine (Reads.text "as").andThen ?_
  refine (Reads.span isBlank_space (Nat.le_refl 1) stops).andThen ?_
  exact ((name.reads _).part 1).alone

theorem reads_braced {inner : List Char} (free : '\x7d' ∉ inner) (last : Option Char) :
    Reads Binding.braced last ('\x7b' :: inner ++ ['\x7d']) [] [(1, inner)] := by
  show Reads Binding.braced last (['\x7b'] ++ (inner ++ ['\x7d'])) [] _
  refine (Reads.char '\x7b').andThen ?_
  exact ((Reads.span (bne_of_not_mem free) (Nat.zero_le _) rfl).part 1).upTo (Reads.char '\x7d').alone

namespace ClauseItem

theorem takeWhile_phrase (name : ClauseName) (newName : Option (List Char)) :
    (phrase name.text newName).takeWhile isRest = name.text := by
  have behind : ∀ tail : List Char, (name.text ++ tail).takeWhile isRest =
      name.text ++ tail.takeWhile isRest := fun _ => List.takeWhile_append_of_pos name.isWord.rest
  cases newName with
  | none =>
      have whole := behind []
      rwa [List.append_nil, List.takeWhile_nil, List.append_nil] at whole
  | some other =>
      have space : (" as ".toList ++ other).takeWhile isRest = [] :=
        List.takeWhile_cons_of_neg (by decide)
      rw [phrase, behind, space, List.append_nil]

/-- The word that marks an item as a type is taken off, and no name is taken for it. -/
theorem withoutType_text (item : ClauseItem) :
    Binding.withoutType item.text = phrase item.name.text (item.newName.map (·.text)) := by
  rw [Binding.withoutType, text]
  cases item.typed with
  | true =>
      rw [if_pos rfl, if_pos (List.isPrefixOf_iff_prefix.mpr (List.prefix_append _ _))]
      exact List.drop_left' rfl
  | false =>
      rw [if_neg Bool.false_ne_true, List.nil_append, if_neg]
      intro marked
      obtain ⟨rest, whole⟩ := List.isPrefixOf_iff_prefix.mp marked
      have name := takeWhile_phrase item.name (item.newName.map (·.text))
      rw [← whole] at name
      exact item.clear name.symm

theorem localName_text (item : ClauseItem) :
    localName (Binding.withoutType item.text) = (item.newName.getD item.name).text := by
  rw [withoutType_text, localName_phrase item.name.isWord.isPlain item.isPlain_newName]
  cases item.newName <;> rfl

end ClauseItem

theorem ClauseName.not_mem (name : ClauseName) {mark : Char} (other : isRest mark = false) :
    mark ∉ name.text :=
  not_mem_of_kind name.isWord.rest other

theorem ClauseName.trimmed_of_comma (name : ClauseName) : IsTrimmed (· == ',') name.text := by
  apply IsTrimmed.of_forall
  intro c member
  exact beq_eq_false_iff_ne.mpr (ne_of_kind (name.isWord.rest c member) (by decide))

theorem ClauseName.trim_text (name : ClauseName) : trim name.text = name.text :=
  trimOf_self name.isWord.isPlain.trimmed

theorem leftNames_of_name (name : ClauseName) : leftNames name.text = [name.text] := by
  rw [leftNames, name.trim_text, trimOf_self name.trimmed_of_comma, name.trim_text, if_pos name.valid]

/-- Of a name and a comma behind it, the name is left. -/
theorem leftNames_of_comma (name : ClauseName) : leftNames (name.text ++ ", ".toList) = [name.text] := by
  have comma : IsTrimmed isBlank [','] := .singleton (by decide)
  have inner : IsTrimmed isBlank (name.text ++ ([] ++ [','])) :=
    name.isWord.isPlain.trimmed.append comma name.isWord.filled (List.cons_ne_nil _ _) []
  have shape : name.text ++ ", ".toList = [] ++ ((name.text ++ [',']) ++ [' ']) := by simp
  have spaceless : trim ([] ++ ((name.text ++ [',']) ++ [' '])) = name.text ++ [','] :=
    trimOf_append (List.forall_mem_nil _) isBlank_space inner
  have bare : trimOf (· == ',') ([] ++ (name.text ++ [','])) = name.text :=
    trimOf_append (List.forall_mem_nil _) (List.forall_mem_singleton.mpr rfl) name.trimmed_of_comma
  rw [List.nil_append] at bare
  rw [leftNames, shape, spaceless, bare, name.trim_text, if_pos name.valid]

namespace Bundle

section Braces

variable (lead : Nat) (items : List ClauseItem) (trail : Nat)

theorem each_isItem : ∀ part ∈ items.map (·.text), IsItem part := by
  intro part member
  obtain ⟨item, -, rfl⟩ := List.mem_map.mp member
  exact item.isItem

theorem isBlank_replicate (n : Nat) : ∀ c ∈ List.replicate n ' ', isBlank c = true := by
  intro c member
  rw [(List.mem_replicate.mp member).2]
  decide

theorem items_inner : Name.items (inner lead items trail) = items.map (·.text) :=
  items_padded (each_isItem items) (isBlank_replicate lead) (isBlank_replicate trail)

theorem brace_not_mem_inner : '\x7d' ∉ inner lead items trail := by
  have spaces : ∀ n, '\x7d' ∉ List.replicate n ' ' := fun n member =>
    absurd (isBlank_replicate n _ member) (by decide)
  rw [inner, List.mem_append, List.mem_append, not_or, not_or]
  exact ⟨spaces lead, not_mem_inCommas (each_isItem items) (by decide) (by decide) (by decide),
    spaces trail⟩

theorem localNames_braces :
    ((items.map (·.text)).map fun item => localName (Binding.withoutType item)).filter isName =
      (braces lead items trail).localNames := by
  have names : (items.map (·.text)).map (fun item => localName (Binding.withoutType item)) =
      items.map fun item => (item.newName.getD item.name).text := by
    rw [List.map_map]
    exact List.map_congr_left fun item _ => item.localName_text
  rw [names]
  apply List.filter_eq_self.mpr
  intro name member
  obtain ⟨item, -, rfl⟩ := List.mem_map.mp member
  exact (item.newName.getD item.name).valid

end Braces

/-- The names of a bundle come first, and what stands before the bundle is left. -/
theorem ofClause_append (rest : Bundle) {front : List Char} (noBrace : '\x7b' ∉ front)
    (noStar : '*' ∉ front) :
    Binding.ofClause (front ++ rest.text) = rest.localNames ++ leftNames front := by
  cases rest with
  | whole name =>
      have free : '\x7b' ∉ front ++ (whole name).text := by
        rw [List.mem_append, not_or]
        refine ⟨noBrace, ?_⟩
        intro member
        rcases List.mem_append.mp member with inMark | inName
        · exact absurd inMark (by decide)
        · exact name.not_mem (by decide) inName
      have found := search_of_opens namespaced_opens noStar name.reads_namespaced (List.cons_ne_nil _ _)
      have cut := cutFrom_append front (whole name).text [] [(1, name.text)]
      rw [List.append_nil] at found cut
      rw [ofClause_of_star (search_eq_none_of_opens braced_opens free) found, cut, List.append_nil]
      rfl
  | braces lead items trail =>
      have found : Binding.braced.search (front ++ (braces lead items trail).text) =
          some ⟨front.length, front.length + (braces lead items trail).text.length,
            [(1, inner lead items trail)]⟩ := by
        have here := search_of_opens braced_opens noBrace
          (reads_braced (brace_not_mem_inner lead items trail)) (List.cons_ne_nil _ _)
        rwa [List.append_nil] at here
      have cut := cutFrom_append front (braces lead items trail).text [] [(1, inner lead items trail)]
      rw [List.append_nil, List.append_nil] at cut
      have star := search_eq_none_of_opens namespaced_opens noStar
      rw [← cut] at star
      have part : ∀ start stop, Found.part ⟨start, stop, [(1, inner lead items trail)]⟩ 1 =
          inner lead items trail := fun _ _ => rfl
      rw [ofClause_of_braces found star, cut, part, items_inner, localNames_braces lead items trail]

end Bundle

theorem Clause.ofClause_text (clause : Clause) :
    Binding.ofClause clause.text = clause.localNames := by
  cases clause with
  | single name =>
      have braces := search_eq_none_of_opens braced_opens
        (name.not_mem (show isRest '\x7b' = false by decide))
      have star := search_eq_none_of_opens namespaced_opens
        (name.not_mem (show isRest '*' = false by decide))
      exact (ofClause_of_neither braces star).trans (leftNames_of_name name)
  | only rest =>
      have nothing : ∀ mark : Char, mark ∉ ([] : List Char) := fun _ => List.not_mem_nil
      have whole := rest.ofClause_append (nothing '\x7b') (nothing '*')
      have none : leftNames [] = [] := by decide
      rwa [List.nil_append, none, List.append_nil] at whole
  | both name rest =>
      have free : ∀ mark : Char, isRest mark = false → mark ∉ ", ".toList →
          mark ∉ name.text ++ ", ".toList := by
        intro mark other apart
        rw [List.mem_append, not_or]
        exact ⟨name.not_mem other, apart⟩
      have whole := rest.ofClause_append (free '\x7b' (by decide) (by decide))
        (free '*' (by decide) (by decide))
      rw [leftNames_of_comma, List.append_assoc] at whole
      exact whole

end CodeSurvey.Source
