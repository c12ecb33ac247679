import CodeSurvey.Proofs.Pattern.Inversion

/-!
How many matches a scan finds. It takes the first match from the left again and again. Where a match
that begins later never ends sooner, no choice of matches that do not overlap has more of them, and so a
text has at least as many matches as a part of it that is not cut out of a word.
-/

set_option autoImplicit false

namespace CodeSurvey

open Text

variable {c later : Cursor}

/-- Two places behind one, and how the nearer one moves to the other. -/
theorem Cursor.MovesOver.between {near far : Cursor} {first second : List Char}
    (one : c.MovesOver first near) (two : c.MovesOver second far)
    (order : far.rest.length ≤ near.rest.length) : ∃ skipped, near.MovesOver skipped far := by
  have same : first ++ near.rest = second ++ far.rest := one.rest.symm.trans two.rest
  have sizes := congrArg List.length same
  simp only [List.length_append] at sizes
  obtain ⟨skipped, rfl⟩ : first <+: second :=
    List.prefix_of_prefix_length_le (List.prefix_append first near.rest)
      (same ▸ List.prefix_append second far.rest) (by omega)
  refine ⟨skipped, ?_, ?_, ?_⟩
  · rw [List.append_assoc] at same
    exact List.append_cancel_left same
  · rw [two.pos, one.pos, List.length_append, Nat.add_assoc]
  · rw [two.last, one.last, List.getLast?_append, Option.or_assoc]

/-- What is left of a way behind its first character. -/
theorem Cursor.MovesOver.tail {x : Char} {taken : List Char} (moves : c.MovesOver (x :: taken) later) :
    Cursor.MovesOver ⟨c.pos + 1, some x, taken ++ later.rest, []⟩ taken later := by
  refine ⟨rfl, ?_, ?_⟩
  · rw [moves.pos, List.length_cons, Nat.add_assoc, Nat.add_comm 1]
  · rw [moves.last, List.getLast?_cons]
    cases taken.getLast? <;> rfl

/-- A place of a part of a text, and the same place in the text. `behind` follows the part. -/
structure Cursor.Within (behind : List Char) (c wide : Cursor) : Prop where
  rest : wide.rest = c.rest ++ behind
  last : wide.last.any isWord = c.last.any isWord

namespace Cursor.Within

variable {behind : List Char} {wide : Cursor}

/-- A way through the part is one through the text. -/
theorem exists_moves {taken : List Char} (within : c.Within behind wide)
    (moves : c.MovesOver taken later) (parts : List (Nat × List Char)) :
    ∃ far, wide.MovesOver taken far ∧ later.Within behind far ∧ far.parts = parts := by
  refine ⟨⟨wide.pos + taken.length, taken.getLast?.or wide.last, later.rest ++ behind, parts⟩,
    ⟨?_, rfl, rfl⟩, ⟨rfl, ?_⟩, rfl⟩
  · rw [within.rest, moves.rest, List.append_assoc]
  · rw [moves.last]
    cases taken.getLast? with
    | none => exact within.last
    | some x => rfl

/-- Edges of words stay edges if no word follows the part. -/
theorem atEdge_eq (within : c.Within behind wide) (apart : behind.head?.any isWord = false) :
    wide.atEdge = c.atEdge := by
  rw [atEdge, atEdge, within.last, within.rest]
  cases c.rest with
  | nil => rw [List.nil_append, apart]; rfl
  | cons x rest => rfl

end Cursor.Within

/-- A way over enough characters of a kind is among the ends of a span. -/
theorem Cursor.mem_spanEnds_of_moves {allowed : Char → Bool} {least : Nat} {greedy : Bool}
    {taken : List Char} (moves : c.MovesOver taken later) (fit : ∀ x ∈ taken, allowed x = true)
    (enough : least ≤ taken.length) (parts : later.parts = c.parts) :
    later ∈ c.spanEnds allowed least greedy := by
  have long : taken.length ≤ (c.rest.takeWhile allowed).length := by
    rw [moves.rest, List.takeWhile_append_of_pos fit, List.length_append]
    exact Nat.le_add_right _ _
  have place : later = ⟨c.pos + taken.length, (c.rest.take taken.length).getLast?.or c.last,
      c.rest.drop taken.length, c.parts⟩ := by
    obtain ⟨pos, last, rest, kept⟩ := later
    rw [Cursor.mk.injEq, moves.rest, List.take_left, List.drop_left]
    exact ⟨moves.pos, moves.last, rfl, parts⟩
  have kept : later ∈ (reach allowed c.parts c.rest c.pos c.last []).take
      ((reach allowed c.parts c.rest c.pos c.last []).length - least) := by
    rw [reach_eq, List.append_nil, List.take_reverse, List.mem_reverse, List.mem_drop_iff_getElem]
    refine ⟨taken.length - least, ?_, ?_⟩
    · simp only [List.length_reverse, List.length_map, List.length_range]
      omega
    · simp only [List.getElem_map, List.getElem_range, List.length_reverse, List.length_map,
        List.length_range]
      have index : (c.rest.takeWhile allowed).length + 1 -
          ((c.rest.takeWhile allowed).length + 1 - least) + (taken.length - least) =
          taken.length := by omega
      rw [index, place]
  cases greedy with
  | true => exact kept
  | false => exact List.mem_reverse.mpr kept

namespace Pattern

variable {p : Pattern}

/-- A match is not empty, and one that begins later does not end sooner. -/
structure Orderly (p : Pattern) : Prop where
  advances : ∀ {c stop : Cursor}, stop ∈ p.ends c → stop.rest.length < c.rest.length
  ordered : ∀ {c start stop far : Cursor} {skipped : List Char}, c.MovesOver skipped start →
    stop ∈ p.ends c → far ∈ p.ends start → far.rest.length ≤ stop.rest.length

/-- So many matches stand behind a place without an overlap. -/
inductive Fits (p : Pattern) : Cursor → Nat → Prop
  | nothing (c : Cursor) : Fits p c 0
  | onward {c start stop : Cursor} {skipped : List Char} {n : Nat} (moves : c.MovesOver skipped start)
      (fresh : start.parts = []) (matched : stop ∈ p.ends start) (more : Fits p stop n) :
      Fits p c (n + 1)

theorem Fits.earlier {skipped : List Char} {n : Nat} (moves : c.MovesOver skipped later)
    (fits : p.Fits later n) : p.Fits c n := by
  cases fits with
  | nothing => exact .nothing c
  | onward onward fresh matched more => exact .onward (moves.trans onward) fresh matched more

/-! One step of a scan, and what a whole scan finds. -/

theorem scanFrom_behind {taken : List Char} (moves : c.MovesOver taken later) :
    p.scanFrom c.rest c.pos c.last taken.length =
      p.scanFrom later.rest later.pos later.last 0 := by
  induction taken generalizing c with
  | nil =>
      obtain ⟨rest, pos, last⟩ := moves
      rw [rest, pos, last]
      rfl
  | cons x taken ih =>
      rw [moves.rest, List.cons_append, List.length_cons, scanFrom]
      exact ih moves.tail

/-- At a character a scan goes on to the next one, or behind a match. -/
theorem Orderly.scanFrom_cons (orderly : p.Orderly) (x : Char) (rest : List Char) (pos : Nat)
    (last : Option Char) :
    (p.ends ⟨pos, last, x :: rest, []⟩ = [] ∧
      p.scanFrom (x :: rest) pos last 0 = p.scanFrom rest (pos + 1) (some x) 0) ∨
    ∃ stop ∈ p.ends ⟨pos, last, x :: rest, []⟩, (p.scanFrom (x :: rest) pos last 0).length =
      (p.scanFrom stop.rest stop.pos stop.last 0).length + 1 := by
  rw [scanFrom]
  cases here : p.matchAt ⟨pos, last, x :: rest, []⟩ with
  | none =>
      refine .inl ⟨?_, rfl⟩
      rw [matchAt, run_eq_findSome, Option.map_eq_none_iff, List.findSome?_eq_none_iff] at here
      exact List.eq_nil_iff_forall_not_mem.mpr fun stop member =>
        absurd (here stop member) (Option.some_ne_none stop)
  | some found =>
      obtain ⟨stop, member, rfl⟩ := exists_of_matchAt here
      refine .inr ⟨stop, member, ?_⟩
      obtain ⟨taken, moves⟩ := mem_ends_moves member
      have shorter := orderly.advances member
      cases taken with
      | nil =>
          rw [moves.rest, List.nil_append] at shorter
          exact absurd shorter (Nat.lt_irrefl _)
      | cons y taken =>
          have skip : stop.pos - pos - 1 = taken.length := by
            have behind : stop.pos = pos + (taken.length + 1) := moves.pos
            omega
          have whole := scanFrom_behind (p := p) moves
          rw [List.length_cons, scanFrom] at whole
          dsimp only
          rw [List.length_cons, skip, whole]

/-- The matches of a scan do not overlap. -/
theorem Orderly.fits_scan (orderly : p.Orderly) (c : Cursor) :
    p.Fits c (p.scanFrom c.rest c.pos c.last 0).length := by
  induction size : c.rest.length using Nat.strongRecOn generalizing c with
  | _ size ih =>
    cases follows : c.rest with
    | nil => exact .nothing c
    | cons x rest =>
        rw [follows, List.length_cons] at size
        have stays : c.MovesOver [] ⟨c.pos, c.last, x :: rest, []⟩ := .stay follows.symm rfl rfl
        have step : c.MovesOver [x] ⟨c.pos + 1, some x, rest, []⟩ := ⟨follows, rfl, rfl⟩
        rcases orderly.scanFrom_cons x rest c.pos c.last with ⟨-, same⟩ | ⟨stop, member, found⟩
        · rw [same]
          exact .earlier step (ih rest.length (by omega) ⟨c.pos + 1, some x, rest, []⟩ rfl)
        · have shorter : stop.rest.length < rest.length + 1 := orderly.advances member
          rw [found]
          exact .onward stays rfl member (ih stop.rest.length (by omega) stop rfl)

/-! How a choice of matches changes when a scan takes a step. -/

theorem Fits.rest_ne_nil (orderly : p.Orderly) {n : Nat} (fits : p.Fits c (n + 1)) : c.rest ≠ [] := by
  cases fits with
  | onward moves fresh matched more =>
      intro none
      have shorter := orderly.advances matched
      rw [(List.append_eq_nil_iff.mp (moves.rest.symm.trans none)).2] at shorter
      exact absurd shorter (Nat.not_lt_zero _)

/-- Where no match begins, all of them begin further on. -/
theorem Fits.behind_char {x : Char} {rest : List Char} {pos n : Nat} {last : Option Char}
    (none : p.ends ⟨pos, last, x :: rest, []⟩ = []) (fits : p.Fits ⟨pos, last, x :: rest, []⟩ n) :
    p.Fits ⟨pos + 1, some x, rest, []⟩ n := by
  cases fits with
  | nothing => exact .nothing _
  | @onward _ start stop skipped n moves fresh matched more =>
      cases skipped with
      | nil =>
          have here : start = ⟨pos, last, x :: rest, []⟩ := by
            obtain ⟨place, before, behind, parts⟩ := start
            cases fresh
            cases moves.rest
            cases moves.pos
            cases moves.last
            rfl
          rw [here, none] at matched
          cases matched
      | cons y skipped =>
          obtain ⟨rfl, rfl⟩ : x = y ∧ rest = skipped ++ start.rest := List.cons.inj moves.rest
          exact .onward moves.tail fresh matched more

/-- A match at the place itself ends no later than the first of the others, so all but this one follow
it. -/
theorem Fits.behind_match (orderly : p.Orderly) {near : Cursor} {n : Nat}
    (member : near ∈ p.ends c) (fits : p.Fits c (n + 1)) : p.Fits near n := by
  cases fits with
  | onward moves fresh matched more =>
      obtain ⟨taken, reaches⟩ := mem_ends_moves matched
      obtain ⟨first, reached⟩ := mem_ends_moves member
      obtain ⟨between, ahead⟩ := reached.between (moves.trans reaches)
        (orderly.ordered moves member matched)
      exact more.earlier ahead

/-- No more matches fit behind a place than a scan finds. -/
theorem Orderly.le_scan_of_fits (orderly : p.Orderly) {text : List Char} {pos n : Nat}
    {last : Option Char} (fits : p.Fits ⟨pos, last, text, []⟩ n) :
    n ≤ (p.scanFrom text pos last 0).length := by
  induction size : text.length using Nat.strongRecOn generalizing text pos last n with
  | _ size ih =>
    cases n with
    | zero => exact Nat.zero_le _
    | succ n =>
        obtain ⟨x, rest, rfl⟩ := List.exists_cons_of_ne_nil (fits.rest_ne_nil orderly)
        rw [List.length_cons] at size
        rcases orderly.scanFrom_cons x rest pos last with ⟨none, same⟩ | ⟨near, member, found⟩
        · rw [same]
          exact ih rest.length (by omega) (fits.behind_char none) rfl
        · have shorter : near.rest.length < rest.length + 1 := orderly.advances member
          have stays : Cursor.MovesOver ⟨near.pos, near.last, near.rest, []⟩ [] near :=
            .stay rfl rfl rfl
          have behind := (fits.behind_match orderly member).earlier stays
          have most := ih near.rest.length (by omega) behind rfl
          omega

/-! A part of a text has no more matches than the text. -/

/-- Whether a pattern looks at nothing but the characters that it takes and the edges of words. -/
def isLocal : Pattern → Bool
  | .empty | .one _ | .span .. | .edge => true
  | .seq first second | .alt first second => first.isLocal && second.isLocal
  | _ => false

section Part

variable {behind : List Char}

theorem exists_ends_within (plain : p.isLocal = true) (apart : behind.head?.any isWord = false)
    {wide : Cursor} (within : c.Within behind wide) (member : later ∈ p.ends c) :
    ∃ far ∈ p.ends wide, later.Within behind far := by
  induction p generalizing c later wide with
  | empty =>
      rw [List.mem_singleton.mp member]
      exact ⟨wide, List.mem_singleton_self wide, within⟩
  | one allowed =>
      rw [ends] at member
      split at member
      · next x rest follows =>
          split at member
          · next fits =>
              rw [List.mem_singleton.mp member]
              have wider : wide.rest = x :: (rest ++ behind) := by rw [within.rest, follows]; rfl
              refine ⟨⟨wide.pos + 1, some x, rest ++ behind, wide.parts⟩, ?_, ⟨rfl, rfl⟩⟩
              simp [ends, wider, fits]
          · cases member
      · cases member
  | seq first second ihFirst ihSecond =>
      obtain ⟨plainFirst, plainSecond⟩ := Bool.and_eq_true_iff.mp plain
      obtain ⟨middle, one, two⟩ := List.mem_flatMap.mp member
      obtain ⟨near, oneWide, inside⟩ := ihFirst plainFirst within one
      obtain ⟨far, twoWide, stays⟩ := ihSecond plainSecond inside two
      exact ⟨far, List.mem_flatMap.mpr ⟨near, oneWide, twoWide⟩, stays⟩
  | alt first second ihFirst ihSecond =>
      obtain ⟨plainFirst, plainSecond⟩ := Bool.and_eq_true_iff.mp plain
      rcases List.mem_append.mp member with one | two
      · obtain ⟨far, wider, stays⟩ := ihFirst plainFirst within one
        exact ⟨far, List.mem_append_left _ wider, stays⟩
      · obtain ⟨far, wider, stays⟩ := ihSecond plainSecond within two
        exact ⟨far, List.mem_append_right _ wider, stays⟩
  | span allowed least greedy =>
      obtain ⟨taken, moves, fit, enough, -⟩ := Cursor.mem_spanEnds member
      obtain ⟨far, moved, stays, parts⟩ := within.exists_moves moves wide.parts
      exact ⟨far, Cursor.mem_spanEnds_of_moves moved fit enough parts, stays⟩
  | edge =>
      rw [ends] at member
      split at member
      · next here =>
          rw [List.mem_singleton.mp member]
          have there : wide.atEdge = true := (within.atEdge_eq apart).trans here
          exact ⟨wide, by rw [ends, if_pos there]; exact List.mem_singleton_self wide, within⟩
      · cases member
  | star | part | lineStart | textStart | textEnd | absent => cases plain

/-- Matches in a part of a text are matches in the text. -/
theorem Fits.within (plain : p.isLocal = true) (apart : behind.head?.any isWord = false)
    {wide : Cursor} (within : c.Within behind wide) {n : Nat} (fits : p.Fits c n) :
    p.Fits wide n := by
  induction fits generalizing wide with
  | nothing => exact .nothing wide
  | onward moves fresh matched more ih =>
      obtain ⟨start, moved, inside, bare⟩ := within.exists_moves moves []
      obtain ⟨stop, found, stays⟩ := exists_ends_within plain apart inside matched
      exact .onward moved bare found (ih stays)

/-- A pattern occurs in a text at least as often as in a part between whose neighbours there is no
word. -/
theorem Orderly.occurrences_le (orderly : p.Orderly) (plain : p.isLocal = true) (front text : List Char)
    (before : front.getLast?.any isWord = false) (apart : behind.head?.any isWord = false) :
    p.occurrences text ≤ p.occurrences (front ++ text ++ behind) := by
  have inside : (Cursor.start text).Within behind
      ⟨front.length, front.getLast?, text ++ behind, []⟩ := ⟨rfl, before⟩
  have reaches : (Cursor.start (front ++ text ++ behind)).MovesOver front
      ⟨front.length, front.getLast?, text ++ behind, []⟩ := by
    refine ⟨?_, ?_, ?_⟩
    · exact List.append_assoc ..
    · exact (Nat.zero_add _).symm
    · exact (Option.or_none).symm
  have found := (orderly.fits_scan (Cursor.start text)).within plain apart inside
  exact orderly.le_scan_of_fits (found.earlier reaches)

end Part

end Pattern

end CodeSurvey
