import CodeSurvey.Proofs.Pattern.Reading
import CodeSurvey.Proofs.Source.ImportLines
import CodeSurvey.Proofs.Source.NameLists

set_option autoImplicit false

namespace CodeSurvey.Source

open Text Pattern Name

structure Identifier where
  text : List Char
  valid : isIdentifier text = true
  plain : ∀ c ∈ text, isWord c = true

/-- The name of a module behind those of the packages around it. -/
structure ModulePath where
  first : Identifier
  more : List Identifier

def ModulePath.text (path : ModulePath) : List Char :=
  joinWith ['.'] ((path.first :: path.more).map (·.text))

/-- The module that names are taken from: dots, a path, or both. -/
structure NamedModule where
  dots : Nat
  path : Option ModulePath
  named : 0 < dots ∨ path.isSome = true

def NamedModule.text (origin : NamedModule) : List Char :=
  List.replicate origin.dots '.' ++ origin.path.elim [] (·.text)

/-- What is imported, and the name it gets where that is another one. -/
structure Renamed (α : Type) where
  origin : α
  newName : Option Identifier

def Renamed.text {α : Type} (written : α → List Char) (item : Renamed α) : List Char :=
  phrase (written item.origin) (item.newName.map (·.text))

/-- A statement that imports names from a module, or modules. -/
inductive ModuleImport where
  | names (origin : NamedModule) (first : Renamed Identifier) (more : List (Renamed Identifier))
    (inParens : Bool)
  | modules (first : Renamed ModulePath) (more : List (Renamed ModulePath))

namespace ModuleImport

/-- A list with parentheses around it, or without them. -/
def enclosed (inParens : Bool) (list : List Char) : List Char :=
  if inParens then '(' :: (list ++ [')']) else list

def text : ModuleImport → List Char
  | .names origin first more inParens =>
    "from ".toList ++ (origin.text ++ (" import ".toList ++
      enclosed inParens (inCommas ((first :: more).map (Renamed.text (·.text))))))
  | .modules first more =>
    "import ".toList ++ inCommas ((first :: more).map (Renamed.text (·.text)))

/-- The modules of the statement, each at its first place only. -/
def specifiers : ModuleImport → List (List Char)
  | .names origin _ _ _ => [origin.text]
  | .modules first more => ((first :: more).map (·.origin.text)).eraseDups

def localNames : ModuleImport → List (List Char)
  | .names _ first more _ => (first :: more).map fun item => (item.newName.getD item.origin).text
  | .modules first more => (first :: more).map fun item => (item.newName.getD item.origin.first).text

end ModuleImport

/-- What may follow a statement on its line: blanks, and a comment or none. -/
structure LineTail where
  gap : List Char
  comment : Option (List Char)
  blank : ∀ c ∈ gap, isBlank c = true
  oneLine : '\n' ∉ gap ++ comment.getD []

def LineTail.text (tail : LineTail) : List Char :=
  tail.gap ++ tail.comment.elim [] ('#' :: ·)

/-! The parts of a statement. -/

theorem isDotted_of_isBlank {c : Char} (blank : isBlank c = true) : Import.isDotted c = false := by
  have plain := isPlain_of_isBlank blank
  rw [isPlain, isRest, Bool.or_eq_false_iff, Bool.or_eq_false_iff] at plain
  rw [Import.isDotted, plain.1.1, plain.2]
  rfl

theorem isPlain_of_isDotted {c : Char} (dotted : Import.isDotted c = true) : isPlain c = true := by
  rw [Import.isDotted, Bool.or_eq_true] at dotted
  rw [isPlain, isRest, Bool.or_eq_true, Bool.or_eq_true]
  rcases dotted with word | dot
  · exact .inl (.inl word)
  · exact .inr dot

theorem Identifier.isPlain (name : Identifier) : IsPlain name.text := by
  refine ⟨?_, fun c member => isPlain_of_isWord (name.plain c member)⟩
  intro none
  have valid := name.valid
  rw [none] at valid
  cases valid

namespace ModulePath

theorem isDotted (path : ModulePath) : ∀ c ∈ path.text, Import.isDotted c = true := by
  intro c member
  rw [Import.isDotted, Bool.or_eq_true, beq_iff_eq]
  rcases mem_joinWith member with dot | ⟨part, inside, holds⟩
  · exact .inr (List.mem_singleton.mp dot)
  · obtain ⟨name, -, rfl⟩ := List.mem_map.mp inside
    exact .inl (name.plain c holds)

/-- A path begins with its first name, and a dot follows if more does. -/
theorem exists_text (path : ModulePath) :
    ∃ rest, path.text = path.first.text ++ rest ∧ ∀ c ∈ rest.head?, c = '.' := by
  rw [text, List.map_cons]
  cases path.more with
  | nil => exact ⟨[], by rw [List.map_nil, joinWith_singleton, List.append_nil], by simp⟩
  | cons second more =>
      refine ⟨'.' :: joinWith ['.'] ((second :: more).map (·.text)), ?_, by simp⟩
      rw [List.map_cons, joinWith_cons_cons]

theorem isPlain (path : ModulePath) : IsPlain path.text := by
  refine ⟨?_, fun c member => isPlain_of_isDotted (path.isDotted c member)⟩
  obtain ⟨rest, whole, -⟩ := path.exists_text
  rw [whole]
  exact List.append_ne_nil_of_left_ne_nil path.first.isPlain.filled rest

theorem firstComponent_text (path : ModulePath) : firstComponent path.text = path.first.text := by
  obtain ⟨rest, whole, dot⟩ := path.exists_text
  have inName : ∀ c ∈ path.first.text, decide (c ≠ '.') = true := by
    intro c member
    exact decide_eq_true (ne_of_kind (path.first.plain c member) isWord_dot)
  rw [firstComponent, whole, List.takeWhile_append_of_pos inName]
  cases rest with
  | nil => simp
  | cons c rest => simp [dot c rfl]

end ModulePath

namespace NamedModule

theorem isDotted (origin : NamedModule) : ∀ c ∈ origin.text, Import.isDotted c = true := by
  intro c member
  rcases List.mem_append.mp member with dot | inPath
  · rw [(List.mem_replicate.mp dot).2]
    rfl
  · cases path : origin.path with
    | none =>
        rw [path] at inPath
        cases inPath
    | some path' =>
        rw [path] at inPath
        exact path'.isDotted c inPath

theorem isPlain (origin : NamedModule) : IsPlain origin.text := by
  refine ⟨?_, fun c member => isPlain_of_isDotted (origin.isDotted c member)⟩
  intro none
  obtain ⟨noDots, noPath⟩ := List.append_eq_nil_iff.mp none
  rcases origin.named with some | some
  · rw [List.replicate_eq_nil_iff] at noDots
    omega
  · obtain ⟨path, named⟩ := Option.isSome_iff_exists.mp some
    rw [named] at noPath
    exact path.isPlain.filled noPath

end NamedModule

theorem Renamed.isPlain_newName {α : Type} (item : Renamed α) :
    ∀ other ∈ item.newName.map (·.text), IsPlain other := by
  intro other member
  obtain ⟨name, -, rfl⟩ := Option.map_eq_some_iff.mp member
  exact name.isPlain

theorem Renamed.isItem {α : Type} {written : α → List Char} (plain : ∀ origin, IsPlain (written origin))
    (item : Renamed α) : IsItem (item.text written) :=
  .phrase (plain item.origin) item.isPlain_newName

/-- The items of a list, as they are written. -/
theorem Renamed.each_isItem {α : Type} {written : α → List Char}
    (plain : ∀ origin, IsPlain (written origin)) (items : List (Renamed α)) :
    ∀ part ∈ items.map (Renamed.text written), IsItem part := by
  intro part member
  obtain ⟨item, -, rfl⟩ := List.mem_map.mp member
  exact item.isItem plain

namespace LineTail

theorem newline (tail : LineTail) : '\n' ∉ tail.text := by
  have absent := tail.oneLine
  rw [List.mem_append, not_or] at absent
  rw [text, List.mem_append, not_or]
  refine ⟨absent.1, ?_⟩
  cases comment : tail.comment with
  | none => simp
  | some words =>
      rw [comment] at absent
      simpa using absent.2

/-- The first character that is no blank begins a comment. -/
theorem first_filled (tail : LineTail) {gap rest : List Char} {x : Char}
    (whole : tail.text = gap ++ x :: rest) (blank : ∀ c ∈ gap, isBlank c = true)
    (filled : isBlank x = false) : x = '#' := by
  have stop : ∀ (c : Char) (more : List Char), isBlank c = false →
      (c :: more).dropWhile isBlank = c :: more := fun c more solid =>
    List.dropWhile_cons_of_neg (by rw [solid]; exact Bool.false_ne_true)
  have same := congrArg (List.dropWhile isBlank) whole
  rw [text, List.dropWhile_append_of_pos tail.blank, List.dropWhile_append_of_pos blank,
    stop x rest filled] at same
  cases comment : tail.comment with
  | none =>
      rw [comment] at same
      cases same
  | some words =>
      rw [comment, Option.elim_some, stop '#' words (by decide)] at same
      exact (List.cons.inj same).1.symm

theorem stops (tail : LineTail) {allowed : Char → Bool} (mark : allowed '#' = false)
    (apart : ∀ c, isBlank c = true → allowed c = false) : tail.text.head?.any allowed = false := by
  rw [text]
  cases gap : tail.gap with
  | nil =>
      cases tail.comment with
      | none => rfl
      | some words => exact mark
  | cons c rest =>
      have blank := tail.blank c (by rw [gap]; exact List.mem_cons_self)
      exact apart c blank

/-- What stands before the comment. -/
theorem takeWhile_comment (tail : LineTail) {front : List Char} (absent : '#' ∉ front) :
    (front ++ tail.text).takeWhile (· ≠ '#') = front ++ tail.gap := by
  have before : ∀ c ∈ front ++ tail.gap, decide (c ≠ '#') = true := by
    intro c member
    apply decide_eq_true
    intro same
    rw [same, List.mem_append] at member
    rcases member with inFront | inGap
    · exact absent inFront
    · exact absurd (tail.blank '#' inGap) (by decide)
  rw [text, ← List.append_assoc, List.takeWhile_append_of_pos before]
  cases tail.comment with
  | none => simp
  | some words => simp

end LineTail

/-! What the rules for modules read. -/

section Modules

variable {last : Option Char} {behind : List Char}

theorem NamedModule.reads (origin : NamedModule) (stops : behind.head?.any Import.isDotted = false) :
    Reads (.alt (.seq (.many1 (· == '.')) (.many Import.isDotted)) (.many1 Import.isDotted)) last
      origin.text behind [] := by
  -- Behind the dots stands a name or what follows the module, and neither begins with a dot.
  have dotless : (origin.path.elim [] (·.text) ++ behind).head?.any (· == '.') = false := by
    cases origin.path with
    | none =>
        cases behind with
        | nil => rfl
        | cons c rest => exact (Bool.or_eq_false_iff.mp stops).2
    | some path =>
        obtain ⟨rest, whole, -⟩ := path.exists_text
        obtain ⟨c, name, first⟩ := List.exists_cons_of_ne_nil path.first.isPlain.filled
        have word := path.first.plain c (by rw [first]; exact List.mem_cons_self)
        rw [Option.elim_some, whole, first]
        exact beq_eq_false_iff_ne.mpr (ne_of_kind word isWord_dot)
  have inPath : ∀ c ∈ origin.path.elim [] (·.text), Import.isDotted c = true := fun c member =>
    origin.isDotted c (List.mem_append_right _ member)
  rw [NamedModule.text]
  by_cases absolute : origin.dots = 0
  · have filled := origin.isPlain.filled
    rw [NamedModule.text] at filled
    rw [absolute, List.replicate_zero, List.nil_append] at filled ⊢
    have refuses : Refuses (.seq (.many1 (· == '.')) (.many Import.isDotted)) last
        (origin.path.elim [] (·.text) ++ behind) := (Refuses.span dotless Nat.zero_lt_one).seq
    exact .alt_right refuses (.span inPath (List.length_pos_iff.mpr filled) stops)
  · have dots : ∀ c ∈ List.replicate origin.dots '.', (c == '.') = true := by
      intro c member
      exact beq_iff_eq.mpr (List.mem_replicate.mp member).2
    have some : 1 ≤ (List.replicate origin.dots '.').length := by
      rw [List.length_replicate]
      omega
    exact .alt_left ((Reads.span dots some dotless).andThen (.span inPath (Nat.zero_le _) stops))

theorem isBlank_of_isGap {c : Char} (gap : Import.isGap c = true) : isBlank c = true := by
  rw [Import.isGap, Bool.or_eq_true, beq_iff_eq, beq_iff_eq] at gap
  rcases gap with rfl | rfl
  · decide
  · decide

theorem isGap_space : ∀ c ∈ [' '], Import.isGap c = true :=
  List.forall_mem_singleton.mpr rfl

/-- Of a statement that imports names, the module is captured. -/
theorem NamedModule.reads_fromModule (origin : NamedModule) (stops : behind.head?.any isWord = false) :
    Reads Import.fromModule none ("from".toList ++ ([' '] ++ (origin.text ++ ([' '] ++
      "import".toList)))) behind [(1, origin.text)] := by
  have start : (origin.text ++ ([' '] ++ "import".toList) ++ behind).head?.any Import.isGap = false := by
    rw [List.append_assoc]
    exact origin.isPlain.stops (fun _ => isBlank_of_isGap) _
  have edge : Reads .edge (some 't') [] behind [] := by
    apply Reads.edge
    rw [stops]
    decide
  refine (Reads.lineStart rfl).here ?_
  refine (Reads.span (by simp) (Nat.zero_le _) rfl).here ?_
  refine (Reads.text "from").andThen ?_
  refine (Reads.span isGap_space (Nat.le_refl 1) start).andThen ?_
  refine ((origin.reads rfl).part 1).upTo ?_
  refine (Reads.span isGap_space (Nat.le_refl 1) rfl).andThen ?_
  exact (Reads.text "import").stop edge.alone

/-- A text behind an item of a list of modules. -/
structure EndsItem (behind : List Char) : Prop where
  dotted : behind.head?.any Import.isDotted = false
  renamed : ∀ last, Refuses (.all [.many1 Import.isGap, .text "as", .many1 Import.isGap, .many1 isWord])
    last behind

theorem EndsItem.comma (rest : List Char) : EndsItem (',' :: rest) := by
  have dotted : (',' :: rest).head?.any Import.isDotted = false := rfl
  have gap : (',' :: rest).head?.any Import.isGap = false := rfl
  exact ⟨dotted, fun last => (Refuses.span gap Nat.zero_lt_one).seq⟩

/-- Behind blanks, a tail goes on with a comment only. -/
theorem LineTail.refuses (tail : LineTail) {q : Pattern} {x : Char} (opens : OpensWith q (· = x))
    (filled : isBlank x = false) (other : x ≠ '#') {least : Nat} (last : Option Char) :
    Refuses (.seq (.span Import.isGap least true) q) last tail.text := by
  apply Refuses.of_forall
  intro c stop follows member
  obtain ⟨middle, near, far⟩ := List.mem_flatMap.mp member
  obtain ⟨gap, moves, fit, -⟩ := Cursor.mem_spanEnds near
  obtain ⟨y, rest, starts, rfl⟩ := opens _ _ far
  have whole : tail.text = gap ++ y :: rest := by
    rw [← follows, moves.rest, starts]
  exact other (tail.first_filled whole (fun c member => isBlank_of_isGap (fit c member)) filled)

theorem EndsItem.tail (tail : LineTail) : EndsItem tail.text := by
  refine ⟨tail.stops (by decide) fun _ => isDotted_of_isBlank, fun last => ?_⟩
  have opens : OpensWith (.all [.text "as", .many1 Import.isGap, .many1 isWord]) (· = 'a') :=
    (OpensWith.text (show "as".toList = 'a' :: ['s'] from rfl)).seq
  exact tail.refuses opens (by decide) (by decide) last

theorem Renamed.reads_aliased (item : Renamed ModulePath) (ends : EndsItem behind) :
    Reads Import.aliased last (item.text (·.text)) behind [] := by
  have path := item.origin.isPlain.filled
  have long : 1 ≤ item.origin.text.length := List.length_pos_iff.mpr path
  rw [Renamed.text]
  cases item.newName with
  | none =>
      exact (Reads.span item.origin.isDotted long ends.dotted).stop (.optional_none (ends.renamed _))
  | some name =>
      have word : behind.head?.any isWord = false := by
        have dotted := ends.dotted
        cases behind with
        | nil => rfl
        | cons c rest => exact (Bool.or_eq_false_iff.mp dotted).1
      have filled : 1 ≤ name.text.length := List.length_pos_iff.mpr name.isPlain.filled
      have gapless : (name.text ++ behind).head?.any Import.isGap = false :=
        name.isPlain.stops (fun _ => isBlank_of_isGap) behind
      show Reads Import.aliased last
        (item.origin.text ++ ([' '] ++ ("as".toList ++ ([' '] ++ name.text)))) behind []
      refine (Reads.span item.origin.isDotted long rfl).andThen (.alt_left ?_)
      refine (Reads.span isGap_space (Nat.le_refl 1) rfl).andThen ?_
      refine (Reads.text "as").andThen ?_
      refine (Reads.span isGap_space (Nat.le_refl 1) gapless).andThen ?_
      exact (Reads.span name.plain filled word).alone

/-- One more module of a list. -/
def nextModule : Pattern :=
  .all [.many Import.isGap, .char ',', .many Import.isGap, Import.aliased]

theorem reads_nextModule (item : Renamed ModulePath) (ends : EndsItem behind) :
    Reads nextModule last ([',', ' '] ++ item.text (·.text)) behind [] := by
  have isItem := item.isItem ModulePath.isPlain
  have gapless : (item.text (·.text) ++ behind).head?.any Import.isGap = false :=
    isItem.trimmed.stops isItem.filled (fun _ => isBlank_of_isGap) behind
  show Reads nextModule last ([','] ++ ([' '] ++ item.text (·.text))) behind []
  refine (Reads.span (by simp) (Nat.zero_le _) rfl).here ?_
  refine (Reads.char ',').andThen ?_
  refine (Reads.span isGap_space (Nat.zero_le _) gapless).andThen ?_
  exact (item.reads_aliased ends).alone

/-- A list of modules is read up to the tail of the line, item by item. -/
theorem reads_modules (first : Renamed ModulePath) (more : List (Renamed ModulePath))
    (tail : LineTail) :
    Reads (.seq Import.aliased (.star nextModule)) last
      (inCommas ((first :: more).map (Renamed.text (·.text)))) tail.text [] := by
  have pieces : ∀ after : List (List Char),
      after <:+ (more.map (Renamed.text (·.text))).map ([',', ' '] ++ ·) →
        EndsItem (after.flatten ++ tail.text) := by
    intro after inside
    cases after with
    | nil => exact .tail tail
    | cons piece after =>
        obtain ⟨text, -, rfl⟩ := List.mem_map.mp (inside.subset List.mem_cons_self)
        exact .comma _
  have comma : OpensWith (.all [.char ',', .many Import.isGap, Import.aliased]) (· = ',') :=
    OpensWith.seq (OpensWith.char rfl : OpensWith (.char ',') (· = ','))
  have stops : ∀ last, Refuses nextModule last tail.text := fun last =>
    tail.refuses comma (by decide) (by decide) last
  rw [List.map_cons, inCommas_cons]
  refine (first.reads_aliased (pieces _ List.suffix_rfl)).andThen (.star ?_ stops)
  intro piece after inside
  obtain ⟨text, member, rfl⟩ := List.mem_map.mp (inside.subset List.mem_cons_self)
  obtain ⟨item, -, rfl⟩ := List.mem_map.mp member
  refine ⟨List.cons_ne_nil _ _, fun last => ?_⟩
  exact reads_nextModule item (pieces after ((List.suffix_cons _ after).trans inside))

/-- Of a statement that imports modules, the list is captured. -/
theorem reads_moduleList (first : Renamed ModulePath) (more : List (Renamed ModulePath))
    (tail : LineTail) :
    Reads Import.moduleList none
      ("import".toList ++ ([' '] ++ inCommas ((first :: more).map (Renamed.text (·.text))))) tail.text
      [(1, inCommas ((first :: more).map (Renamed.text (·.text))))] := by
  have ends := trimmed_inCommas (Renamed.each_isItem ModulePath.isPlain (first :: more))
  have gapless := ends.1.stops (ends.2 (List.cons_ne_nil _ _)) (fun _ => isBlank_of_isGap) tail.text
  refine (Reads.lineStart rfl).here ?_
  refine (Reads.span (by simp) (Nat.zero_le _) rfl).here ?_
  refine (Reads.text "import").andThen ?_
  refine (Reads.span isGap_space (Nat.le_refl 1) gapless).andThen ?_
  exact ((reads_modules first more tail).part 1).alone

/-- A rule that begins with another word finds nothing on a line. -/
theorem refuses_word {word : String} {p : Pattern} {patterns : List Pattern} {allowed : Char → Bool}
    {line : List Char} (stays : ∀ c stop : Cursor, stop ∈ p.ends c → stop = c)
    (stops : line.head?.any allowed = false) (other : ¬ word.toList <+: line) :
    Refuses (.all (p :: .many allowed :: .text word :: patterns)) last line :=
  .of_stays stays (.span_seq stops (Refuses.text other).seq)

/-! What the rules for names read. -/

/-- The rest of a line, whatever it is. -/
theorem reads_rest {list : List Char} (filled : list ≠ []) (newline : '\n' ∉ list) :
    Reads (.all [.part 1 (.many1 (· != '\n')), .textEnd]) last list [] [(1, list)] := by
  have inLine := bne_of_not_mem newline
  exact ((Reads.span inLine (List.length_pos_iff.mpr filled) rfl).part 1).stop Reads.textEnd.alone

theorem NamedModule.reads_fromLine (origin : NamedModule) {list : List Char} (filled : list ≠ [])
    (newline : '\n' ∉ list) (solid : list.head?.any isBlank = false) :
    Reads Binding.fromLine none ("from".toList ++ ([' '] ++ (origin.text ++ ([' '] ++
      ("import".toList ++ ([' '] ++ list)))))) [] [(1, list)] := by
  have start : (origin.text ++ ([' '] ++ ("import".toList ++ ([' '] ++ list))) ++ []).head?.any isBlank
      = false := by
    rw [List.append_assoc]
    exact origin.isPlain.stops (fun _ blank => blank) _
  have bare : ∀ c ∈ origin.text, (!isBlank c) = true := by
    intro c member
    rw [origin.isPlain.isSolid.solid c member]
    rfl
  have long : 1 ≤ origin.text.length := List.length_pos_iff.mpr origin.isPlain.filled
  have behind : (list ++ []).head?.any isBlank = false := by rwa [List.append_nil]
  refine Reads.textStart.here ?_
  refine (Reads.span (by simp) (Nat.zero_le _) rfl).here ?_
  refine (Reads.text "from").andThen ?_
  refine (Reads.span isBlank_space (Nat.le_refl 1) start).andThen ?_
  refine (Reads.span bare long rfl).andThen ?_
  refine (Reads.span isBlank_space (Nat.le_refl 1) rfl).andThen ?_
  refine (Reads.text "import").andThen ?_
  exact (Reads.span isBlank_space (Nat.le_refl 1) behind).andThen (reads_rest filled newline)

theorem reads_importLine {list : List Char} (filled : list ≠ []) (newline : '\n' ∉ list)
    (solid : list.head?.any isBlank = false) :
    Reads Binding.importLine none ("import".toList ++ ([' '] ++ list)) [] [(1, list)] := by
  have behind : (list ++ []).head?.any isBlank = false := by rwa [List.append_nil]
  refine Reads.textStart.here ?_
  refine (Reads.span (by simp) (Nat.zero_le _) rfl).here ?_
  refine (Reads.text "import").andThen ?_
  exact (Reads.span isBlank_space (Nat.le_refl 1) behind).andThen (reads_rest filled newline)

theorem ofModules_of_reads_from {line list code : List Char}
    (before : line.takeWhile (· ≠ '#') = code)
    (reads : Reads Binding.fromLine none code [] [(1, list)]) :
    Binding.ofModules line = ((items list).map localName).filter isIdentifier := by
  rw [Binding.ofModules, before, reads.matchStart_all]
  rfl

theorem ofModules_of_reads_import {line list code : List Char}
    (before : line.takeWhile (· ≠ '#') = code) (refuses : Refuses Binding.fromLine none code)
    (reads : Reads Binding.importLine none code [] [(1, list)]) :
    Binding.ofModules line = ((items list).map localModule).filter isIdentifier := by
  rw [Binding.ofModules, before, refuses.matchStart, reads.matchStart_all]
  rfl

end Modules

namespace ModuleImport

theorem text_names (origin : NamedModule) (first : Renamed Identifier)
    (more : List (Renamed Identifier)) (inParens : Bool) :
    (names origin first more inParens).text = "from ".toList ++ (origin.text ++ (" import ".toList ++
      enclosed inParens (inCommas ((first :: more).map (Renamed.text (·.text)))))) :=
  rfl

theorem text_modules (first : Renamed ModulePath) (more : List (Renamed ModulePath)) :
    (modules first more).text =
      "import ".toList ++ inCommas ((first :: more).map (Renamed.text (·.text))) :=
  rfl

def isStatementChar (c : Char) : Bool :=
  isPlain c || [' ', ',', '(', ')'].contains c

theorem isStatementChar_of_isPlain {c : Char} (plain : isPlain c = true) : isStatementChar c = true := by
  rw [isStatementChar, plain]
  rfl

theorem mem_text {statement : ModuleImport} {c : Char} (member : c ∈ statement.text) :
    isStatementChar c = true := by
  have word : ∀ letter ∈ "from ".toList ++ " import ".toList, isStatementChar letter = true :=
    List.all_eq_true.mp (by decide +kernel)
  have list : ∀ {α : Type} {written : α → List Char}, (∀ origin, IsPlain (written origin)) →
      ∀ items : List (Renamed α), c ∈ inCommas (items.map (Renamed.text written)) →
        isStatementChar c = true := by
    intro α written plain items inside
    rcases mem_inCommas (Renamed.each_isItem plain items) inside with plain | rfl | rfl
    · exact isStatementChar_of_isPlain plain
    · decide
    · decide
  cases statement with
  | names origin first more inParens =>
      rw [text_names, List.mem_append, List.mem_append, List.mem_append] at member
      rcases member with start | inOrigin | between | inList
      · exact word c (List.mem_append_left _ start)
      · exact isStatementChar_of_isPlain (origin.isPlain.plain c inOrigin)
      · exact word c (List.mem_append_right _ between)
      · cases inParens with
        | false =>
            rw [enclosed, if_neg Bool.false_ne_true] at inList
            exact list Identifier.isPlain (first :: more) inList
        | true =>
            rw [enclosed, if_pos rfl, List.mem_cons, List.mem_append, List.mem_singleton] at inList
            rcases inList with rfl | inList | rfl
            · decide
            · exact list Identifier.isPlain (first :: more) inList
            · decide
  | modules first more =>
      rw [text_modules, List.mem_append] at member
      rcases member with start | inList
      · exact word c (List.mem_append_right _ (List.mem_cons_of_mem ' ' start))
      · exact list ModulePath.isPlain (first :: more) inList

theorem not_mem_text (statement : ModuleImport) {mark : Char} (other : isStatementChar mark = false) :
    mark ∉ statement.text :=
  not_mem_of_kind (fun _ => mem_text) other

theorem newline (statement : ModuleImport) (tail : LineTail) : '\n' ∉ statement.text ++ tail.text := by
  rw [List.mem_append, not_or]
  exact ⟨statement.not_mem_text (by decide), tail.newline⟩

theorem items_enclosed {parts : List (List Char)} (each : ∀ part ∈ parts, IsItem part)
    (inParens : Bool) (tail : LineTail) :
    items (enclosed inParens (inCommas parts) ++ tail.gap) = parts := by
  cases inParens with
  | false =>
      have bare : enclosed false (inCommas parts) = inCommas parts := rfl
      rw [bare]
      exact items_inCommas each tail.blank
  | true =>
      have within := items_in_parens each tail.blank
      have shape : enclosed true (inCommas parts) ++ tail.gap =
          '(' :: (inCommas parts ++ ')' :: tail.gap) := by
        rw [enclosed, if_pos rfl, List.cons_append, List.append_assoc, List.singleton_append]
      rwa [← shape] at within

theorem trimmed_enclosed {parts : List (List Char)} (each : ∀ part ∈ parts, IsItem part)
    (some : parts ≠ []) (inParens : Bool) :
    enclosed inParens (inCommas parts) ≠ [] ∧
      IsTrimmed isBlank (enclosed inParens (inCommas parts)) := by
  cases inParens with
  | false => exact ⟨(trimmed_inCommas each).2 some, (trimmed_inCommas each).1⟩
  | true =>
      refine ⟨List.cons_ne_nil _ _, ?_⟩
      have parens : IsTrimmed isBlank ['('] ∧ IsTrimmed isBlank [')'] :=
        ⟨.singleton (by decide), .singleton (by decide)⟩
      exact parens.1.append parens.2 (by decide) (by decide) (inCommas parts)

theorem isIdentifier_localNames (statement : ModuleImport) :
    ∀ name ∈ statement.localNames, isIdentifier name = true := by
  intro name member
  cases statement with
  | names origin first more inParens =>
      obtain ⟨item, -, rfl⟩ := List.mem_map.mp member
      exact (item.newName.getD item.origin).valid
  | modules first more =>
      obtain ⟨item, -, rfl⟩ := List.mem_map.mp member
      exact (item.newName.getD item.origin.first).valid

section Names

variable (origin : NamedModule) (first : Renamed Identifier) (more : List (Renamed Identifier))
  (inParens : Bool) (tail : LineTail)

theorem found_names :
    Import.found .python ((names origin first more inParens).text ++ tail.text) = [origin.text] := by
  have newline := newline (names origin first more inParens) tail
  have shape : (names origin first more inParens).text ++ tail.text =
      ("from".toList ++ ([' '] ++ (origin.text ++ ([' '] ++ "import".toList)))) ++
        (' ' :: (enclosed inParens (inCommas ((first :: more).map (Renamed.text (·.text)))) ++
          tail.text)) := by
    rw [text_names]
    simp
  rw [shape] at newline ⊢
  have read : Import.captured Import.fromModule _ = [origin.text] := Import.captured_of_scan
    (scan_of_reads_line (origin.reads_fromModule (by rfl)) newline (by simp)) origin.isPlain.filled
    (trimOf_self origin.isPlain.trimmed)
  have other : Import.moduleList.scan _ = [] :=
    scan_of_refuses_line (refuses_word (fun _ _ => eq_of_mem_ends_lineStart) rfl (by simp)) newline
  rw [Import.found, Import.listed, read, other]
  rfl

theorem localName_names :
    ((first :: more).map (Renamed.text (·.text))).map localName =
      (names origin first more inParens).localNames := by
  rw [List.map_map]
  apply List.map_congr_left
  intro item _
  show localName (phrase item.origin.text (item.newName.map (·.text))) = _
  rw [localName_phrase item.origin.isPlain item.isPlain_newName]
  cases item.newName <;> rfl

theorem ofModules_names :
    Binding.ofModules ((names origin first more inParens).text ++ tail.text) =
      (names origin first more inParens).localNames := by
  have each := Renamed.each_isItem Identifier.isPlain (first :: more)
  have items := items_enclosed each inParens tail
  obtain ⟨filled, trimmed⟩ := trimmed_enclosed each (List.cons_ne_nil _ _) inParens
  have absent := not_mem_text (names origin first more inParens)
    (show isStatementChar '\n' = false by decide)
  have shape : (names origin first more inParens).text ++ tail.gap =
      "from".toList ++ ([' '] ++ (origin.text ++ ([' '] ++ ("import".toList ++ ([' '] ++
        (enclosed inParens (inCommas ((first :: more).map (Renamed.text (·.text)))) ++ tail.gap)))))) := by
    rw [text_names]
    simp
  rw [text_names] at absent
  have newline : '\n' ∉ enclosed inParens (inCommas ((first :: more).map (Renamed.text (·.text)))) ++
      tail.gap := by
    have outside := tail.oneLine
    simp only [List.mem_append, not_or] at absent outside ⊢
    exact ⟨absent.2.2.2, outside.1⟩
  have reads := origin.reads_fromLine (List.append_ne_nil_of_left_ne_nil filled _) newline
    (trimmed.stops filled (fun _ blank => blank) tail.gap)
  rw [← shape] at reads
  rw [ofModules_of_reads_from (tail.takeWhile_comment (not_mem_text _ (by decide))) reads,
    items, localName_names origin first more inParens]
  exact List.filter_eq_self.mpr (isIdentifier_localNames _)

end Names

section Modules

variable (first : Renamed ModulePath) (more : List (Renamed ModulePath)) (tail : LineTail)

theorem headD_words_modules :
    ((first :: more).map (Renamed.text (·.text))).map (fun item => (words item).headD []) =
      (first :: more).map (·.origin.text) := by
  rw [List.map_map]
  apply List.map_congr_left
  intro item _
  show (words (phrase item.origin.text (item.newName.map (·.text)))).headD [] = _
  rw [words_phrase item.origin.isPlain item.isPlain_newName]
  rfl

theorem found_modules :
    Import.found .python ((modules first more).text ++ tail.text) =
      (first :: more).map (·.origin.text) := by
  have newline := newline (modules first more) tail
  have shape : (modules first more).text ++ tail.text =
      ("import".toList ++ ([' '] ++ inCommas ((first :: more).map (Renamed.text (·.text))))) ++
        tail.text := rfl
  rw [shape] at newline ⊢
  have read : Import.moduleList.scan _ = _ :=
    scan_of_reads_line (reads_moduleList first more tail) newline (by simp)
  have other : Import.fromModule.scan _ = [] :=
    scan_of_refuses_line (refuses_word (fun _ _ => eq_of_mem_ends_lineStart) rfl (by simp)) newline
  have items := items_inCommas (Renamed.each_isItem ModulePath.isPlain (first :: more))
    (List.forall_mem_nil _)
  rw [List.append_nil] at items
  rw [Import.found, Import.listed, Import.captured_of_scan_nil other, read, List.nil_append,
    List.flatMap_singleton]
  show (Name.items (inCommas ((first :: more).map (Renamed.text (·.text))))).map
    (fun item => (words item).headD []) = _
  rw [items, headD_words_modules]

theorem localModule_modules :
    ((first :: more).map (Renamed.text (·.text))).map localModule = (modules first more).localNames := by
  rw [List.map_map]
  apply List.map_congr_left
  intro item _
  show localModule (phrase item.origin.text (item.newName.map (·.text))) = _
  rw [localModule_phrase item.origin.isPlain item.isPlain_newName, item.origin.firstComponent_text]
  cases item.newName <;> rfl

theorem ofModules_modules :
    Binding.ofModules ((modules first more).text ++ tail.text) = (modules first more).localNames := by
  have each := Renamed.each_isItem ModulePath.isPlain (first :: more)
  have filled := (trimmed_inCommas each).2 (List.cons_ne_nil _ _)
  have newline : '\n' ∉ inCommas ((first :: more).map (Renamed.text (·.text))) ++ tail.gap := by
    have outside := tail.oneLine
    rw [List.mem_append, not_or] at outside ⊢
    exact ⟨not_mem_inCommas each (by decide) (by decide) (by decide), outside.1⟩
  have shape : (modules first more).text ++ tail.gap = "import".toList ++ ([' '] ++
      (inCommas ((first :: more).map (Renamed.text (·.text))) ++ tail.gap)) := rfl
  have reads := reads_importLine (List.append_ne_nil_of_left_ne_nil filled _) newline
    ((trimmed_inCommas each).1.stops filled (fun _ blank => blank) tail.gap)
  have refuses : Refuses Binding.fromLine none ("import".toList ++ ([' '] ++
      (inCommas ((first :: more).map (Renamed.text (·.text))) ++ tail.gap))) :=
    refuses_word (fun _ _ => eq_of_mem_ends_textStart) rfl (by simp)
  rw [← shape] at reads refuses
  rw [ofModules_of_reads_import (tail.takeWhile_comment (not_mem_text _ (by decide)))
    refuses reads, items_inCommas each tail.blank, localModule_modules]
  exact List.filter_eq_self.mpr (isIdentifier_localNames _)

end Modules

end ModuleImport

/-- A statement that imports names from a module or modules, alone on a line: the modules it was written
with are found, and the names it introduces, in order and on the first line. -/
theorem module_imports_read_back (statement : ModuleImport) (tail : LineTail) :
    imports (some .python) (statement.text ++ tail.text) = statement.specifiers.map String.ofList ∧
      bindings (some .python) (statement.text ++ tail.text) =
        statement.localNames.map fun name => ⟨String.ofList name, 1⟩ := by
  have newline := statement.newline tail
  constructor
  · show distinct (Import.found .python (statement.text ++ tail.text)) = _
    cases statement with
    | names origin first more inParens =>
        have filled : ∀ text ∈ [origin.text], text ≠ [] := by
          simpa using origin.isPlain.filled
        rw [ModuleImport.found_names, distinct_of_filled filled]
        rfl
    | modules first more =>
        have filled : ∀ text ∈ (first :: more).map (·.origin.text), text ≠ [] := by
          intro text member
          obtain ⟨item, -, rfl⟩ := List.mem_map.mp member
          exact item.origin.isPlain.filled
        rw [ModuleImport.found_modules, distinct_of_filled filled]
        rfl
  · show declaredBy Binding.ofModules (statement.text ++ tail.text) = _
    rw [declaredBy_of_line _ newline]
    cases statement with
    | names origin first more inParens => rw [ModuleImport.ofModules_names]
    | modules first more => rw [ModuleImport.ofModules_modules]

/-- Two names from a package above, one of them with a new name, in parentheses. -/
def twoNames : ModuleImport :=
  .names ⟨2, some ⟨⟨"pkg".toList, by decide, List.all_eq_true.mp (by decide)⟩, []⟩, .inl (by decide)⟩
    ⟨⟨"a".toList, by decide, List.all_eq_true.mp (by decide)⟩, none⟩
    [⟨⟨"b".toList, by decide, List.all_eq_true.mp (by decide)⟩,
      some ⟨"as".toList, by decide, List.all_eq_true.mp (by decide)⟩⟩] true

/-- A comment that looks like one more name. -/
def noted : LineTail :=
  ⟨"  ".toList, some ", d".toList, List.all_eq_true.mp (by decide), by decide⟩

theorem module_imports_read_back_of_two_names :
    imports (some .python) "from ..pkg import (a, b as as)  #, d".toList = ["..pkg"] ∧
      bindings (some .python) "from ..pkg import (a, b as as)  #, d".toList =
        [⟨"a", 1⟩, ⟨"as", 1⟩] := by
  have line : twoNames.text ++ noted.text = "from ..pkg import (a, b as as)  #, d".toList := by decide
  have whole := module_imports_read_back twoNames noted
  rw [line] at whole
  exact whole

end CodeSurvey.Source
