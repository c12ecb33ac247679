import CodeSurvey.Pattern.Ends
import CodeSurvey.Pattern.Search

set_option autoImplicit false

namespace CodeSurvey

open Text

/-- A later place, behind some characters. -/
structure Cursor.MovesOver (c : Cursor) (taken : List Char) (later : Cursor) : Prop where
  rest : c.rest = taken ++ later.rest
  pos : later.pos = c.pos + taken.length
  last : later.last = taken.getLast?.or c.last

namespace Cursor

variable {c later : Cursor}

theorem MovesOver.stay (rest : later.rest = c.rest) (pos : later.pos = c.pos)
    (last : later.last = c.last) : c.MovesOver [] later :=
  ⟨rest.symm, pos, last⟩

theorem MovesOver.trans {first second : List Char} {middle : Cursor}
    (one : c.MovesOver first middle) (two : middle.MovesOver second later) :
    c.MovesOver (first ++ second) later := by
  refine ⟨?_, ?_, ?_⟩
  · rw [one.rest, two.rest, List.append_assoc]
  · rw [two.pos, one.pos, List.length_append, Nat.add_assoc]
  · rw [two.last, one.last, List.getLast?_append, Option.or_assoc]

theorem MovesOver.upTo_eq {taken : List Char} (moves : c.MovesOver taken later) :
    c.upTo later = taken := by
  rw [upTo, moves.rest, moves.pos, Nat.add_sub_cancel_left, List.take_left]

/-- The places over characters of one kind, by the number of characters. -/
theorem reach_eq (allowed : Char → Bool) (parts : List (Nat × List Char)) (rest : List Char)
    (pos : Nat) (last : Option Char) (shorter : List Cursor) :
    reach allowed parts rest pos last shorter =
      ((List.range ((rest.takeWhile allowed).length + 1)).map fun count =>
        ⟨pos + count, (rest.take count).getLast?.or last, rest.drop count, parts⟩).reverse ++
        shorter := by
  induction rest generalizing pos last shorter with
  | nil => simp [reach]
  | cons x rest ih =>
      rw [reach]
      by_cases good : allowed x = true
      · rw [if_pos good, ih, List.takeWhile_cons_of_pos good, List.length_cons,
          List.range_succ_eq_map (n := (rest.takeWhile allowed).length + 1), List.map_cons,
          List.map_map, List.reverse_cons, List.append_assoc]
        congr 2
        apply List.map_congr_left
        intro count _
        have behind : ((x :: rest).take (count + 1)).getLast?.or last =
            (rest.take count).getLast?.or (some x) := by
          rw [List.take_succ_cons, List.getLast?_cons]
          cases (rest.take count).getLast? <;> rfl
        simp only [Function.comp_apply, Nat.succ_eq_add_one, behind, List.drop_succ_cons,
          Cursor.mk.injEq, and_true]
        omega
      · rw [if_neg good, List.takeWhile_cons_of_neg good]
        simp

theorem mem_spanEnds {allowed : Char → Bool} {least : Nat} {greedy : Bool}
    (member : later ∈ c.spanEnds allowed least greedy) :
    ∃ taken, c.MovesOver taken later ∧ (∀ x ∈ taken, allowed x = true) ∧ least ≤ taken.length ∧
      later.parts = c.parts := by
  have kept : later ∈ (reach allowed c.parts c.rest c.pos c.last []).take
      ((reach allowed c.parts c.rest c.pos c.last []).length - least) := by
    cases greedy with
    | true => exact member
    | false => exact List.mem_reverse.mp member
  -- The places come longest first, so cutting the list off leaves out the shortest ways.
  rw [reach_eq, List.append_nil, List.take_reverse, List.mem_reverse,
    List.mem_drop_iff_getElem] at kept
  obtain ⟨index, inside, same⟩ := kept
  simp only [List.length_reverse, List.length_map, List.length_range] at inside
  simp only [List.getElem_map, List.getElem_range, List.length_reverse, List.length_map,
    List.length_range] at same
  obtain ⟨count, enough, short, rfl⟩ : ∃ count, least ≤ count ∧
      count ≤ (c.rest.takeWhile allowed).length ∧
      later = ⟨c.pos + count, (c.rest.take count).getLast?.or c.last, c.rest.drop count, c.parts⟩ :=
    ⟨_, by omega, by omega, same.symm⟩
  have within : (c.rest.takeWhile allowed).length ≤ c.rest.length :=
    (List.takeWhile_prefix allowed).length_le
  have size : (c.rest.take count).length = count := List.length_take_of_le (by omega)
  have early : c.rest.take count = (c.rest.takeWhile allowed).take count := by
    conv => lhs; rw [← List.takeWhile_append_dropWhile (p := allowed) (l := c.rest)]
    exact List.take_append_of_le_length short
  refine ⟨c.rest.take count, ⟨(List.take_append_drop count c.rest).symm, ?_, rfl⟩, ?_, ?_, rfl⟩
  · rw [size]
  · intro x inTaken
    rw [early] at inTaken
    exact List.all_eq_true.mp List.all_takeWhile x (List.mem_of_mem_take inTaken)
  · omega

theorem drop_length_takeWhile (allowed : Char → Bool) (text : List Char) :
    text.drop (text.takeWhile allowed).length = text.dropWhile allowed := by
  have left : (text.takeWhile allowed ++ text.dropWhile allowed).drop
      (text.takeWhile allowed).length = text.dropWhile allowed := List.drop_left
  rwa [List.takeWhile_append_dropWhile] at left

/-- The longest way comes first. -/
theorem spanEnds_head? (allowed : Char → Bool) {least : Nat} (c : Cursor)
    (enough : least ≤ (c.rest.takeWhile allowed).length) :
    (c.spanEnds allowed least true).head? =
      some ⟨c.pos + (c.rest.takeWhile allowed).length, (c.rest.takeWhile allowed).getLast?.or c.last,
        c.rest.dropWhile allowed, c.parts⟩ := by
  have taken : c.rest.take (c.rest.takeWhile allowed).length = c.rest.takeWhile allowed :=
    (List.prefix_iff_eq_take.mp (List.takeWhile_prefix allowed)).symm
  have some : (c.rest.takeWhile allowed).length + 1 - least ≠ 0 := by omega
  simp only [spanEnds, ↓reduceIte, reach_eq, List.append_nil, List.head?_take, List.length_reverse,
    List.length_map, List.length_range, some, List.head?_reverse, List.getLast?_map,
    List.getLast?_range]
  simp [taken, drop_length_takeWhile]

end Cursor

namespace Pattern

variable {c later : Cursor}

/-- What every step of a repetition keeps, the whole repetition keeps. -/
theorem mem_repeatEnds_keeps (keeps : Cursor → Cursor → Prop) (stays : ∀ c, keeps c c)
    (goesOn : ∀ c middle later, keeps c middle → keeps middle later → keeps c later)
    {body : Cursor → List Cursor} (step : ∀ c later, later ∈ body c → keeps c later) {n : Nat}
    (member : later ∈ repeatEnds body n c) : keeps c later := by
  induction n generalizing c with
  | zero =>
      rw [repeatEnds, List.mem_singleton] at member
      exact member ▸ stays c
  | succ n ih =>
      rw [repeatEnds, List.mem_append, List.mem_flatMap, List.mem_singleton] at member
      rcases member with ⟨middle, first, again⟩ | here
      · split at again
        · exact goesOn c middle later (step c middle first) (ih again)
        · cases again
      · exact here ▸ stays c

/-- A match takes characters from what follows its place. -/
theorem mem_ends_moves {p : Pattern} (member : later ∈ p.ends c) :
    ∃ taken, c.MovesOver taken later := by
  induction p generalizing c later with
  | empty =>
      rw [ends, List.mem_singleton] at member
      exact ⟨[], .stay (by rw [member]) (by rw [member]) (by rw [member])⟩
  | one allowed =>
      rw [ends] at member
      split at member
      · next x rest follows =>
          split at member
          · rw [List.mem_singleton] at member
            subst member
            exact ⟨[x], ⟨follows, rfl, rfl⟩⟩
          · cases member
      · cases member
  | seq first second ihFirst ihSecond =>
      rw [ends, List.mem_flatMap] at member
      obtain ⟨middle, one, two⟩ := member
      obtain ⟨taken, moves⟩ := ihFirst one
      obtain ⟨more, moved⟩ := ihSecond two
      exact ⟨taken ++ more, moves.trans moved⟩
  | alt first second ihFirst ihSecond =>
      rw [ends, List.mem_append] at member
      rcases member with one | two
      · exact ihFirst one
      · exact ihSecond two
  | span allowed least greedy =>
      obtain ⟨taken, moves, -⟩ := Cursor.mem_spanEnds member
      exact ⟨taken, moves⟩
  | star body ih =>
      refine mem_repeatEnds_keeps (fun c later => ∃ taken, c.MovesOver taken later)
        (fun _ => ⟨[], .stay rfl rfl rfl⟩) ?_ (fun _ _ => ih) member
      rintro c middle later ⟨one, moves⟩ ⟨more, moved⟩
      exact ⟨one ++ more, moves.trans moved⟩
  | part slot body ih =>
      rw [ends, List.mem_map] at member
      obtain ⟨middle, inner, rfl⟩ := member
      obtain ⟨taken, moves⟩ := ih inner
      exact ⟨taken, ⟨moves.rest, moves.pos, moves.last⟩⟩
  | edge | lineStart | textStart | textEnd | absent =>
      rw [ends] at member
      split at member
      · rw [List.mem_singleton] at member
        exact ⟨[], .stay (by rw [member]) (by rw [member]) (by rw [member])⟩
      · cases member

theorem eq_of_mem_ends_edge (member : later ∈ Pattern.edge.ends c) : later = c := by
  rw [ends] at member
  split at member
  · exact List.mem_singleton.mp member
  · cases member

theorem eq_of_mem_ends_lineStart (member : later ∈ Pattern.lineStart.ends c) : later = c := by
  rw [ends] at member
  split at member
  · exact List.mem_singleton.mp member
  · cases member

theorem eq_of_mem_ends_textStart (member : later ∈ Pattern.textStart.ends c) : later = c := by
  rw [ends] at member
  split at member
  · exact List.mem_singleton.mp member
  · cases member

theorem exists_of_mem_ends_one {allowed : Char → Bool} (member : later ∈ (one allowed).ends c) :
    ∃ x, allowed x = true ∧ c.rest = x :: later.rest := by
  rw [ends] at member
  split at member
  · next x rest follows =>
      split at member
      · next fits =>
          rw [List.mem_singleton.mp member]
          exact ⟨x, fits, follows⟩
      · cases member
  · cases member

theorem rest_of_mem_ends_char {mark : Char} (member : later ∈ (char mark).ends c) :
    c.rest = mark :: later.rest := by
  obtain ⟨x, same, follows⟩ := exists_of_mem_ends_one member
  rw [follows, beq_iff_eq.mp same]

theorem rest_of_mem_ends_text {word : String} (member : later ∈ (text word).ends c) :
    c.rest = word.toList ++ later.rest := by
  rw [text] at member
  generalize word.toList = letters at member ⊢
  induction letters generalizing c with
  | nil => rw [List.mem_singleton.mp member, List.nil_append]
  | cons x letters ih =>
      obtain ⟨middle, first, more⟩ := List.mem_flatMap.mp member
      rw [rest_of_mem_ends_char first, ih more, List.cons_append]

theorem mem_ends_all_append {first second : List Pattern} :
    later ∈ (all (first ++ second)).ends c ↔
      ∃ middle ∈ (all first).ends c, later ∈ (all second).ends middle := by
  induction first generalizing c with
  | nil => simp [all, ends]
  | cons p rest ih =>
      have unfolded : ∀ patterns : List Pattern, (all (p :: patterns)).ends c =
          (p.ends c).flatMap (all patterns).ends := fun _ => rfl
      rw [List.cons_append, unfolded, unfolded, List.mem_flatMap]
      simp only [List.mem_flatMap, ih]
      constructor
      · rintro ⟨near, one, middle, two, three⟩
        exact ⟨middle, ⟨near, one, two⟩, three⟩
      · rintro ⟨middle, ⟨near, one, two⟩, three⟩
        exact ⟨near, one, middle, two, three⟩

def isSilent : Pattern → Bool
  | .seq first second | .alt first second => first.isSilent && second.isSilent
  | .star body => body.isSilent
  | .part _ _ => false
  | _ => true

theorem parts_of_isSilent {p : Pattern} (silent : p.isSilent = true) (member : later ∈ p.ends c) :
    later.parts = c.parts := by
  induction p generalizing c later with
  | part slot body => cases silent
  | one allowed =>
      rw [ends] at member
      split at member
      · split at member
        · rw [List.mem_singleton.mp member]
        · cases member
      · cases member
  | seq first second ihFirst ihSecond =>
      obtain ⟨one, two⟩ := Bool.and_eq_true_iff.mp silent
      obtain ⟨middle, near, far⟩ := List.mem_flatMap.mp member
      rw [ihSecond two far, ihFirst one near]
  | alt first second ihFirst ihSecond =>
      obtain ⟨one, two⟩ := Bool.and_eq_true_iff.mp silent
      rcases List.mem_append.mp member with here | there
      · exact ihFirst one here
      · exact ihSecond two there
  | span allowed least greedy =>
      obtain ⟨-, -, -, -, kept⟩ := Cursor.mem_spanEnds member
      exact kept
  | star body ih =>
      refine mem_repeatEnds_keeps (fun c later => later.parts = c.parts) (fun _ => rfl) ?_
        (fun _ _ => ih silent) member
      intro c middle later first second
      rw [second, first]
  | empty => rw [List.mem_singleton.mp member]
  | edge | lineStart | textStart | textEnd | absent =>
      rw [ends] at member
      split at member
      · rw [List.mem_singleton.mp member]
      · cases member

/-- A match of the pattern begins with a character of a kind. -/
def OpensWith (p : Pattern) (kind : Char → Prop) : Prop :=
  ∀ c later : Cursor, later ∈ p.ends c → ∃ x rest, c.rest = x :: rest ∧ kind x

namespace OpensWith

variable {kind : Char → Prop}

theorem one {allowed : Char → Bool} (good : ∀ x, allowed x = true → kind x) :
    OpensWith (.one allowed) kind := by
  intro c later member
  rw [ends] at member
  split at member
  · next x rest follows =>
      split at member
      · next fits => exact ⟨x, rest, follows, good x fits⟩
      · cases member
  · cases member

theorem char {mark : Char} (good : kind mark) : OpensWith (.char mark) kind :=
  one fun _ same => beq_iff_eq.mp same ▸ good

theorem seq {first second : Pattern} (opens : OpensWith first kind) :
    OpensWith (.seq first second) kind := by
  intro c later member
  obtain ⟨middle, near, -⟩ := List.mem_flatMap.mp member
  exact opens _ _ near

/-- Characters of the kind may come first, as many as there are. -/
theorem span_seq {allowed : Char → Bool} {least : Nat} {greedy : Bool} {second : Pattern}
    (good : ∀ x, allowed x = true → kind x) (opens : OpensWith second kind) :
    OpensWith (.seq (.span allowed least greedy) second) kind := by
  intro c later member
  obtain ⟨middle, near, far⟩ := List.mem_flatMap.mp member
  obtain ⟨taken, moves, fit, -, -⟩ := Cursor.mem_spanEnds near
  cases taken with
  | nil =>
      obtain ⟨x, rest, follows, fits⟩ := opens _ _ far
      exact ⟨x, rest, moves.rest.trans follows, fits⟩
  | cons x more => exact ⟨x, more ++ middle.rest, moves.rest, good x (fit x List.mem_cons_self)⟩

theorem optional_seq {first second : Pattern} (one : OpensWith first kind)
    (two : OpensWith second kind) : OpensWith (.seq (optional first) second) kind := by
  intro c later member
  obtain ⟨middle, near, far⟩ := List.mem_flatMap.mp member
  rcases List.mem_append.mp near with here | skipped
  · exact one _ _ here
  · rw [List.mem_singleton.mp skipped] at far
    exact two _ _ far

end OpensWith

/-- The character before the end of a match, if there is one, is of a kind. -/
def ClosesWith (p : Pattern) (kind : Char → Prop) : Prop :=
  ∀ c later : Cursor, later ∈ p.ends c → ∀ x, later.last = some x → kind x

namespace ClosesWith

variable {kind : Char → Prop}

theorem one {allowed : Char → Bool} (good : ∀ x, allowed x = true → kind x) :
    ClosesWith (.one allowed) kind := by
  intro c later member x last
  rw [ends] at member
  split at member
  · split at member
    · next fits =>
        rw [List.mem_singleton.mp member] at last
        cases last
        exact good _ fits
    · cases member
  · cases member

theorem char {mark : Char} (good : kind mark) : ClosesWith (.char mark) kind :=
  one fun _ same => beq_iff_eq.mp same ▸ good

/-- Characters of the kind, where there is at least one or none stands before them. -/
theorem span {allowed : Char → Bool} {least : Nat} {greedy : Bool}
    (good : ∀ x, allowed x = true → kind x) {c later : Cursor}
    (member : later ∈ c.spanEnds allowed least greedy) (fresh : least = 0 → c.last = none) :
    ∀ x, later.last = some x → kind x := by
  intro x last
  obtain ⟨taken, moves, fit, enough, -⟩ := Cursor.mem_spanEnds member
  rw [moves.last] at last
  cases back : taken.getLast? with
  | none =>
      rw [List.getLast?_eq_none_iff.mp back, List.length_nil] at enough
      rw [back, Option.none_or, fresh (by omega)] at last
      cases last
  | some y =>
      rw [back, Option.some_or] at last
      cases last
      exact good x (fit x (List.mem_of_getLast? back))

theorem concat {patterns : List Pattern} {p : Pattern} (closes : ClosesWith p kind) :
    ClosesWith (all (patterns ++ [p])) kind := by
  intro c later member
  obtain ⟨middle, -, last⟩ := mem_ends_all_append.mp member
  obtain ⟨stop, near, same⟩ := List.mem_flatMap.mp last
  rw [List.mem_singleton.mp same]
  exact closes _ _ near

end ClosesWith

/-! Where a search finds a pattern. -/

theorem exists_of_matchAt {p : Pattern} {found : Found} (matched : p.matchAt c = some found) :
    ∃ later ∈ p.ends c, found = ⟨c.pos, later.pos, later.parts⟩ := by
  rw [matchAt, run_eq_findSome, Option.map_eq_some_iff] at matched
  obtain ⟨later, first, rfl⟩ := matched
  obtain ⟨other, member, same⟩ := List.exists_of_findSome?_eq_some first
  cases same
  exact ⟨later, member, rfl⟩

theorem exists_of_searchFrom {p : Pattern} {text : List Char} {pos : Nat} {last : Option Char}
    {found : Found} (matched : p.searchFrom text pos last = some found) :
    ∃ skipped start, Cursor.MovesOver ⟨pos, last, text, []⟩ skipped start ∧
      p.matchAt start = some found := by
  induction text generalizing pos last with
  | nil => exact ⟨[], _, .stay rfl rfl rfl, matched⟩
  | cons x rest ih =>
      rw [searchFrom] at matched
      split at matched
      · next other here =>
          cases matched
          exact ⟨[], _, .stay rfl rfl rfl, here⟩
      · obtain ⟨skipped, start, moves, later⟩ := ih matched
        refine ⟨x :: skipped, start, ?_, later⟩
        have step : Cursor.MovesOver ⟨pos, last, x :: rest, []⟩ [x] ⟨pos + 1, some x, rest, []⟩ :=
          ⟨rfl, rfl, rfl⟩
        exact step.trans moves

/-- How a search captures a part: the patterns before it match, the part is what its own pattern
takes, and the patterns behind it match from there. -/
theorem exists_of_search {p body : Pattern} {before behind : List Pattern} {slot : Nat}
    {text : List Char} {found : Found} (matched : p.search text = some found)
    (parts : p = all (before ++ .part slot body :: behind))
    (silent : (all behind).isSilent = true) :
    ∃ front start near inner far stop, Cursor.MovesOver ⟨0, none, text, []⟩ front near ∧
      near ∈ (all before).ends start ∧ inner ∈ body.ends near ∧
      near.MovesOver (found.part slot) inner ∧ far.rest = inner.rest ∧
      stop ∈ (all behind).ends far := by
  subst parts
  obtain ⟨skipped, start, moves, here⟩ := exists_of_searchFrom matched
  obtain ⟨stop, member, rfl⟩ := exists_of_matchAt here
  obtain ⟨near, first, second⟩ := mem_ends_all_append.mp member
  obtain ⟨far, capture, third⟩ := List.mem_flatMap.mp second
  obtain ⟨inner, matchesBody, made⟩ := List.mem_map.mp capture
  obtain ⟨lead, leads⟩ := mem_ends_moves first
  obtain ⟨name, names⟩ := mem_ends_moves matchesBody
  have captured : Found.part ⟨start.pos, stop.pos, stop.parts⟩ slot = name := by
    have kept := parts_of_isSilent silent third
    simp [Found.part, Found.part?, kept, ← made, names.upTo_eq]
  rw [← captured] at names
  exact ⟨skipped ++ lead, start, near, inner, far, stop, moves.trans leads, first, matchesBody, names,
    by rw [← made], third⟩

/-- A captured part stands in the text between what the patterns before it close with and what those
behind it open with. -/
theorem search_captures {p body : Pattern} {before behind : List Pattern} {slot : Nat}
    {text : List Char} {found : Found} {left right : Char → Prop}
    (matched : p.search text = some found)
    (parts : p = all (before ++ .part slot body :: behind))
    (silent : (all behind).isSilent = true) (closes : ClosesWith (all before) left)
    (opens : OpensWith (all behind) right) :
    ∃ front x rest, text = front ++ found.part slot ++ x :: rest ∧
      (∀ y, front.getLast? = some y → left y) ∧ right x := by
  obtain ⟨front, start, near, inner, far, stop, moves, first, -, names, same, third⟩ :=
    exists_of_search matched parts silent
  obtain ⟨x, rest, follows, fits⟩ := opens _ _ third
  refine ⟨front, x, rest, ?_, ?_, fits⟩
  · rw [List.append_assoc, ← follows, same, ← names.rest]
    exact moves.rest
  · intro y last
    apply closes _ _ first
    rw [moves.last, Option.or_none, last]

end Pattern

end CodeSurvey
