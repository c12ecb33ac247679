import CodeSurvey.Clone.Plain
import CodeSurvey.Proofs.Pattern.Inversion
import CodeSurvey.Proofs.Text.Blanks

/-!
Blanks at the edges of lines. A blank that indents a line, or that nothing follows on its line, never
touches what the passes of a plain text look for; each pass either takes it out with a comment or leaves
it at the edge of a line. The plain text is the same without it.
-/

set_option autoImplicit false

namespace CodeSurvey.Clone

open Text

/-- The characters that a comment of a whole line may be indented with. -/
def isIndent (c : Char) : Bool :=
  c == ' ' || c == '\t'

def beginsLine (last : Option Char) : Bool :=
  last.all (· == '\n')

def endsLine (text : List Char) : Bool :=
  text.head?.all (· == '\n')

/-- The last character of a text, or the one before it. -/
def lastOf (last : Option Char) (text : List Char) : Option Char :=
  text.foldl (fun _ c => some c) last

/-- A blank between two texts that indents a line or that nothing follows on its line. -/
structure AtEdge (last : Option Char) (front : List Char) (c : Char) (back : List Char) : Prop where
  blank : isBlank c = true
  inLine : c ≠ '\n'
  edge : isIndent c = true ∧ beginsLine (lastOf last front) = true ∨ endsLine back = true

theorem endsLine_cases {text : List Char} (ends : endsLine text = true) :
    text = [] ∨ ∃ rest, text = '\n' :: rest := by
  cases text with
  | nil => exact .inl rfl
  | cons c rest =>
      have newline : c = '\n' := by simpa [endsLine] using ends
      exact .inr ⟨rest, by rw [newline]⟩

theorem beginsLine_of_ne {c : Char} (inLine : c ≠ '\n') : beginsLine (some c) = false := by
  simp [beginsLine, inLine]

namespace AtEdge

variable {last : Option Char} {d c : Char} {front back : List Char}

theorem tail (place : AtEdge last (d :: front) c back) : AtEdge (some d) front c back :=
  ⟨place.blank, place.inLine, place.edge⟩

theorem cons (place : AtEdge (some d) front c back) : AtEdge last (d :: front) c back :=
  ⟨place.blank, place.inLine, place.edge⟩

/-- Where no line begins, the blank stands at the end of its line. -/
theorem endsLine_of_within (place : AtEdge last [] c back) (within : beginsLine last = false) :
    endsLine back = true := by
  rcases place.edge with ⟨-, begins⟩ | ends
  · rw [show lastOf last [] = last from rfl, within] at begins
    cases begins
  · exact ends

/-- A mark of two characters that are no blanks, with and without a blank behind its first character: it
stands whole before the blank. -/
theorem mark_iff (place : AtEdge last (d :: front) c back) {x y : Char} (first : isBlank x = false)
    (second : isBlank y = false) :
    (d = x ∧ (front ++ c :: back).head? = some y ↔ d = x ∧ front.head? = some y) ∧
      (d = x ∧ (front ++ back).head? = some y ↔ d = x ∧ front.head? = some y) := by
  cases front with
  | cons e front => exact ⟨Iff.rfl, Iff.rfl⟩
  | nil =>
      have other : c ≠ y := by
        intro same
        rw [← same, place.blank] at second
        cases second
      have behind : d = x → back.head? ≠ some y := by
        intro same next
        have inLine : d ≠ '\n' := by
          rintro rfl
          rw [← same] at first
          exact absurd first (by decide)
        have ends := place.tail.endsLine_of_within (beginsLine_of_ne inLine)
        rcases endsLine_cases ends with rfl | ⟨rest, rfl⟩
        · cases next
        · rw [← Option.some.inj next] at second
          exact absurd second (by decide)
      refine ⟨?_, ?_⟩
      · simp [other]
      · simpa using behind

end AtEdge

/-- Two texts that are the same, or of which the first has one more blank, at the edge of a line. -/
inductive Spaced (last : Option Char) : List Char → List Char → Prop where
  | same (text : List Char) : Spaced last text text
  | more {front back : List Char} {c : Char} (place : AtEdge last front c back) :
      Spaced last (front ++ c :: back) (front ++ back)

theorem Spaced.cons {last : Option Char} {d : Char} {text other : List Char}
    (spaced : Spaced (some d) text other) : Spaced last (d :: text) (d :: other) := by
  cases spaced with
  | same => exact .same _
  | more place => exact .more place.cons

/-- The lengths of a part that begins at the same place of two texts, of which the first has one more
character at an index: it lies behind the part, or is one more character of it. -/
inductive Stretched (index : Nat) : Option Nat → Option Nat → Prop where
  | none : Stretched index none none
  | behind {length : Nat} (before : length ≤ index) : Stretched index (some length) (some length)
  | within {length : Nat} (beyond : index ≤ length) :
      Stretched index (some (length + 1)) (some length)

namespace Stretched

variable {index : Nat} {long short : Option Nat}

theorem add (stretched : Stretched index long short) (count : Nat) :
    Stretched (index + count) (long.map (· + count)) (short.map (· + count)) := by
  cases stretched with
  | none => exact .none
  | behind before => exact .behind (Nat.add_le_add_right before count)
  | @within length beyond =>
      have same : length + 1 + count = length + count + 1 := by omega
      simp only [Option.map_some, same]
      exact .within (by omega)

theorem first (short : Option Nat) : Stretched 0 (short.map (· + 1)) short := by
  cases short with
  | none => exact .none
  | some length => exact .within (Nat.zero_le _)

end Stretched

/-- How a pass finds its parts when blanks at the edges of lines do not matter to it. -/
structure BlindToEdges (part? : Option Char → List Char → Option Nat) : Prop where
  /-- Of the character before a part it sees only whether a line begins behind it. -/
  last : ∀ {a b : Option Char} (text : List Char), beginsLine a = beginsLine b →
    part? a text = part? b text
  /-- No part begins with a newline. -/
  newline : ∀ (last : Option Char) (rest : List Char), part? last ('\n' :: rest) = none
  /-- A part has a last character, and that is no newline. -/
  ending : ∀ {last : Option Char} {text : List Char} {length : Nat}, part? last text = some length →
    ∃ index e, length = index + 1 ∧ text[index]? = some e ∧ e ≠ '\n'
  /-- A part that begins before the blank is found with it and without it. -/
  before : ∀ {last : Option Char} {d c : Char} {front back : List Char},
    AtEdge last (d :: front) c back →
      Stretched (front.length + 1) (part? last (d :: (front ++ c :: back)))
        (part? last (d :: (front ++ back)))
  /-- No part begins with the blank, or one begins there that without the blank begins behind it. -/
  here : ∀ {last : Option Char} {c : Char} {back : List Char}, AtEdge last [] c back →
    part? last (c :: back) = none ∧ part? (some c) back = part? last back ∨
      ∃ length, part? last (c :: back) = some (length + 1) ∧ part? last back = some length

section

variable {part? : Option Char → List Char → Option Nat}

theorem eraseFrom_none {last : Option Char} {c : Char} {rest : List Char}
    (kept : part? last (c :: rest) = none) :
    eraseFrom part? last 0 (c :: rest) = c :: eraseFrom part? (some c) 0 rest := by
  rw [eraseFrom, kept]

theorem eraseFrom_some {last : Option Char} {c : Char} {rest : List Char} {length : Nat}
    (found : part? last (c :: rest) = some (length + 1)) :
    eraseFrom part? last 0 (c :: rest) = eraseFrom part? (some c) length rest := by
  rw [eraseFrom, found]
  rfl

/-- Inside a part the character before does not count. -/
theorem eraseFrom_inside (a b : Option Char) (skip : Nat) (text : List Char) :
    eraseFrom part? a (skip + 1) text = eraseFrom part? b (skip + 1) text := by
  cases text with
  | nil => rfl
  | cons c rest => rfl

theorem eraseFrom_of_same {a b : Option Char} {text : List Char} (same : part? a text = part? b text) :
    eraseFrom part? a 0 text = eraseFrom part? b 0 text := by
  cases text with
  | nil => rfl
  | cons c rest => rw [eraseFrom, eraseFrom, same]

theorem eraseFrom_append (last : Option Char) (front : List Char) (skip : Nat) (back : List Char) :
    eraseFrom part? last (front.length + skip) (front ++ back) =
      eraseFrom part? (lastOf last front) skip back := by
  induction front generalizing last with
  | nil => rw [List.length_nil, Nat.zero_add]; rfl
  | cons d front ih =>
      rw [List.length_cons, Nat.add_right_comm, List.cons_append, eraseFrom]
      exact ih (some d)

end

theorem lastOf_take {text : List Char} {index : Nat} {e : Char} (there : text[index]? = some e)
    (last : Option Char) : lastOf last (text.take (index + 1)) = some e := by
  rw [List.take_add_one, there, lastOf, List.foldl_append]
  rfl

namespace BlindToEdges

variable {part? : Option Char → List Char → Option Nat} {last out : Option Char} {d c : Char}
  {front back : List Char}

theorem endsLine_eraseFrom (blind : BlindToEdges part?) (last : Option Char) {text : List Char}
    (ends : endsLine text = true) : endsLine (eraseFrom part? last 0 text) = true := by
  rcases endsLine_cases ends with rfl | ⟨rest, rfl⟩
  · rfl
  · rw [eraseFrom_none (blind.newline last rest)]
    rfl

/-- No line begins where a part ends: its last character is no newline. -/
theorem lastOf_part (blind : BlindToEdges part?) {rest : List Char} {index : Nat}
    (found : part? last (d :: (front ++ rest)) = some (index + 1)) (inside : index ≤ front.length) :
    beginsLine (lastOf (some d) (front.take index)) = false := by
  obtain ⟨place, e, same, there, solid⟩ := blind.ending found
  have here : place = index := by omega
  subst here
  rw [← List.cons_append, List.getElem?_append_left (by rw [List.length_cons]; omega)] at there
  have ends : lastOf (some d) (front.take place) = some e := lastOf_take there last
  rw [ends, beginsLine_of_ne solid]

/-- The blank at the place where a pass stands: it is kept at the edge of a line, or it is taken out with
a part that is also taken out without it. -/
theorem eraseFrom_here (blind : BlindToEdges part?) (place : AtEdge last [] c back)
    (line : beginsLine last = true → beginsLine out = true) :
    Spaced out (eraseFrom part? last 0 (c :: back)) (eraseFrom part? last 0 back) := by
  rcases blind.here place with ⟨kept, same⟩ | ⟨length, found, without⟩
  · have edge : AtEdge out [] c (eraseFrom part? last 0 back) := by
      refine ⟨place.blank, place.inLine, ?_⟩
      rcases place.edge with ⟨indent, begins⟩ | ends
      · exact .inl ⟨indent, line begins⟩
      · exact .inr (blind.endsLine_eraseFrom last ends)
    rw [eraseFrom_none kept, eraseFrom_of_same same]
    exact .more edge
  · have equal : eraseFrom part? last 0 (c :: back) = eraseFrom part? last 0 back := by
      rw [eraseFrom_some found]
      obtain ⟨index, e, rfl, there, -⟩ := blind.ending without
      cases back with
      | nil => simp at there
      | cons d rest => rw [eraseFrom_some without, eraseFrom]
    rw [equal]
    exact .same _

/-- The blank in a part that began before it. -/
theorem eraseFrom_within (blind : BlindToEdges part?) (place : AtEdge last (d :: front) c back)
    {length : Nat} (found : part? last (d :: (front ++ back)) = some (length + 1))
    (beyond : front.length ≤ length) :
    eraseFrom part? (some d) (length + 1) (front ++ c :: back) =
      eraseFrom part? (some d) length (front ++ back) := by
  obtain ⟨more, rfl⟩ := Nat.exists_eq_add_of_le beyond
  have behindBlank : eraseFrom part? (some d) (front.length + more + 1) (front ++ c :: back) =
      eraseFrom part? (some c) more back := by
    rw [Nat.add_assoc, eraseFrom_append, eraseFrom]
  rw [behindBlank, eraseFrom_append]
  cases more with
  | succ more => exact eraseFrom_inside _ _ _ _
  | zero =>
      have solid : beginsLine (lastOf (some d) front) = false := by
        have inside := blind.lastOf_part found (Nat.le_refl _)
        rwa [List.take_length] at inside
      have blank := beginsLine_of_ne place.inLine
      exact eraseFrom_of_same (blind.last back (blank.trans solid.symm))

/-- What a pass leaves of two texts that differ in a blank at the edge of a line differs at most in that
blank, again at the edge of a line. A part may have begun before the texts, then `skip` characters
belong to it; where it ends, a line begins in what is left if one begins in the texts. -/
theorem eraseFrom_spaced (blind : BlindToEdges part?) {skip : Nat} (place : AtEdge last front c back)
    (inside : skip ≤ front.length)
    (line : beginsLine (lastOf last (front.take skip)) = true → beginsLine out = true) :
    Spaced out (eraseFrom part? last skip (front ++ c :: back))
      (eraseFrom part? last skip (front ++ back)) := by
  induction front generalizing last out skip with
  | nil =>
      obtain rfl : skip = 0 := Nat.le_zero.mp inside
      exact blind.eraseFrom_here place line
  | cons d front ih =>
      rw [List.cons_append, List.cons_append]
      cases skip with
      | succ skip => exact ih place.tail (Nat.le_of_succ_le_succ inside) line
      | zero =>
          -- A part that ends before the blank leaves it to the rest; one that holds the blank ends at the
          -- same place of both texts.
          have stretched := blind.before place
          generalize long : part? last (d :: (front ++ c :: back)) = spread at stretched
          generalize short : part? last (d :: (front ++ back)) = bare at stretched
          cases stretched with
          | none =>
              rw [eraseFrom_none long, eraseFrom_none short]
              exact (ih place.tail (Nat.zero_le _) fun begins => begins).cons
          | @behind length before =>
              obtain ⟨index, e, rfl, -, -⟩ := blind.ending long
              have within : index ≤ front.length := by omega
              rw [eraseFrom_some long, eraseFrom_some short]
              refine ih place.tail within fun begins => ?_
              rw [blind.lastOf_part long within] at begins
              cases begins
          | @within length beyond =>
              obtain ⟨index, e, rfl, -, -⟩ := blind.ending short
              rw [eraseFrom_some long, eraseFrom_some short,
                blind.eraseFrom_within place short (by omega)]
              exact .same _

/-- A pass keeps texts the same up to a blank at the edge of a line. -/
theorem erase_spaced (blind : BlindToEdges part?) {text other : List Char}
    (spaced : Spaced none text other) : Spaced none (erase part? text) (erase part? other) := by
  cases spaced with
  | same => exact .same _
  | more place => exact blind.eraseFrom_spaced place (Nat.zero_le _) fun begins => begins

end BlindToEdges

/-- How many characters a text has before its first newline. -/
def restOfLine (text : List Char) : Nat :=
  (text.takeWhile (· ≠ '\n')).length

theorem restOfLine_cons_of_ne {d : Char} (inLine : d ≠ '\n') (rest : List Char) :
    restOfLine (d :: rest) = restOfLine rest + 1 := by
  rw [restOfLine, List.takeWhile_cons_of_pos (by simpa using inLine), List.length_cons]
  rfl

theorem restOfLine_newline (rest : List Char) : restOfLine ('\n' :: rest) = 0 :=
  rfl

theorem restOfLine_ending {text : List Char} {index : Nat} (length : restOfLine text = index + 1) :
    ∃ e, text[index]? = some e ∧ e ≠ '\n' := by
  induction text generalizing index with
  | nil => cases length
  | cons d rest ih =>
      by_cases newline : d = '\n'
      · rw [newline, restOfLine_newline] at length
        cases length
      · rw [restOfLine_cons_of_ne newline] at length
        cases index with
        | zero => exact ⟨d, rfl, newline⟩
        | succ index => exact ih (Nat.succ.inj length)

theorem stretched_restOfLine (front : List Char) {c : Char} (inLine : c ≠ '\n') (back : List Char) :
    Stretched front.length (some (restOfLine (front ++ c :: back)))
      (some (restOfLine (front ++ back))) := by
  induction front with
  | nil =>
      rw [List.nil_append, List.nil_append, restOfLine_cons_of_ne inLine]
      exact .within (Nat.zero_le _)
  | cons d front ih =>
      rw [List.cons_append, List.cons_append]
      by_cases newline : d = '\n'
      · rw [newline, restOfLine_newline, restOfLine_newline]
        exact .behind (Nat.zero_le _)
      · rw [restOfLine_cons_of_ne newline, restOfLine_cons_of_ne newline]
        exact ih.add 1

theorem lineComment?_cons (last : Option Char) (d : Char) (rest : List Char) :
    lineComment? last (d :: rest) =
      if d = '/' ∧ rest.head? = some '/' then some (restOfLine (d :: rest)) else none := by
  unfold lineComment?
  split
  · rename_i text same
    obtain ⟨rfl, rfl⟩ := List.cons.inj same
    rw [if_pos ⟨rfl, rfl⟩, restOfLine_cons_of_ne (by decide), restOfLine_cons_of_ne (by decide),
      Nat.add_comm]
    rfl
  · rename_i other
    rw [if_neg]
    rintro ⟨rfl, slash⟩
    obtain ⟨text, rfl⟩ := List.head?_eq_some_iff.mp slash
    exact other text rfl

theorem lineComment?_blind : BlindToEdges lineComment? where
  last := fun _ _ => rfl
  newline := fun _ _ => rfl
  ending := by
    intro last text length found
    cases text with
    | nil => cases found
    | cons d rest =>
        rw [lineComment?_cons, Option.ite_none_right_eq_some] at found
        obtain ⟨⟨rfl, -⟩, same⟩ := found
        have filled := restOfLine_cons_of_ne (d := '/') (by decide) rest
        have whole := Option.some.inj same
        obtain ⟨e, there, solid⟩ := restOfLine_ending filled
        exact ⟨restOfLine rest, e, whole.symm.trans filled, there, solid⟩
  before := by
    intro last d c front back place
    have mark := place.mark_iff (x := '/') (y := '/') (by decide) (by decide)
    simp only [lineComment?_cons, mark.1, mark.2]
    split
    · exact stretched_restOfLine (d :: front) place.inLine back
    · exact .none
  here := by
    intro last c back place
    left
    rw [lineComment?_cons, if_neg]
    · exact ⟨rfl, rfl⟩
    · rintro ⟨rfl, -⟩
      exact absurd place.blank (by decide)

theorem closing?_cons (d : Char) (rest : List Char) :
    closing? (d :: rest) =
      if d = '*' ∧ rest.head? = some '/' then some 2 else (closing? rest).map (· + 1) := by
  rw [closing?.eq_def]
  split
  · rename_i text same
    obtain ⟨rfl, rfl⟩ := List.cons.inj same
    rw [if_pos ⟨rfl, rfl⟩]
  · rename_i other same
    obtain ⟨rfl, rfl⟩ := List.cons.inj same
    rw [if_neg]
    rintro ⟨rfl, slash⟩
    obtain ⟨text, rfl⟩ := List.head?_eq_some_iff.mp slash
    exact other text rfl rfl
  · rename_i same
    cases same

theorem closing?_ending {text : List Char} {length : Nat} (found : closing? text = some length) :
    ∃ index, length = index + 1 ∧ text[index]? = some '/' := by
  induction text generalizing length with
  | nil => cases found
  | cons d rest ih =>
      rw [closing?_cons] at found
      split at found
      · rename_i closes
        cases found
        exact ⟨1, rfl, by rw [List.getElem?_cons_succ, ← List.head?_eq_getElem?, closes.2]⟩
      · obtain ⟨shorter, later, rfl⟩ := Option.map_eq_some_iff.mp found
        obtain ⟨index, rfl, there⟩ := ih later
        exact ⟨index + 1, rfl, there⟩

theorem stretched_closing {last : Option Char} {front back : List Char} {c : Char}
    (place : AtEdge last front c back) :
    Stretched front.length (closing? (front ++ c :: back)) (closing? (front ++ back)) := by
  induction front generalizing last with
  | nil =>
      rw [List.nil_append, closing?_cons, if_neg]
      · exact .first _
      · rintro ⟨rfl, -⟩
        exact absurd place.blank (by decide)
  | cons d front ih =>
      have mark := place.mark_iff (x := '*') (y := '/') (by decide) (by decide)
      simp only [List.cons_append, closing?_cons, mark.1, mark.2]
      split
      · rename_i closes
        obtain ⟨rest, rfl⟩ := List.head?_eq_some_iff.mp closes.2
        exact .behind (by simp only [List.length_cons]; omega)
      · exact (ih place.tail).add 1

theorem blockComment?_cons (last : Option Char) (d : Char) (rest : List Char) :
    blockComment? last (d :: rest) =
      if d = '/' ∧ rest.head? = some '*' then (closing? rest.tail).map (· + 2) else none := by
  unfold blockComment?
  split
  · rename_i text same
    obtain ⟨rfl, rfl⟩ := List.cons.inj same
    rw [if_pos ⟨rfl, rfl⟩]
    rfl
  · rename_i other
    rw [if_neg]
    rintro ⟨rfl, star⟩
    obtain ⟨text, rfl⟩ := List.head?_eq_some_iff.mp star
    exact other text rfl

theorem blockComment?_blind : BlindToEdges blockComment? where
  last := fun _ _ => rfl
  newline := fun _ _ => rfl
  ending := by
    intro last text length found
    cases text with
    | nil => cases found
    | cons d rest =>
        rw [blockComment?_cons, Option.ite_none_right_eq_some] at found
        obtain ⟨⟨-, star⟩, closes⟩ := found
        obtain ⟨text, rfl⟩ := List.head?_eq_some_iff.mp star
        obtain ⟨shorter, closed, rfl⟩ := Option.map_eq_some_iff.mp closes
        obtain ⟨index, rfl, there⟩ := closing?_ending closed
        exact ⟨index + 2, '/', rfl, there, by decide⟩
  before := by
    intro last d c front back place
    have mark := place.mark_iff (x := '/') (y := '*') (by decide) (by decide)
    simp only [blockComment?_cons, mark.1, mark.2]
    split
    · rename_i opens
      obtain ⟨rest, rfl⟩ := List.head?_eq_some_iff.mp opens.2
      exact (stretched_closing place.tail.tail).add 2
    · exact .none
  here := by
    intro last c back place
    left
    rw [blockComment?_cons, if_neg]
    · exact ⟨rfl, rfl⟩
    · rintro ⟨rfl, -⟩
      exact absurd place.blank (by decide)

/-- Whether a text begins with a comment of a whole line. -/
def opensHash (text : List Char) : Bool :=
  (text.dropWhile isIndent).head? == some '#'

theorem hashComment?_eq (last : Option Char) (text : List Char) :
    hashComment? last text =
      if beginsLine last && opensHash text then some (restOfLine text) else none := by
  have gap : text.drop (text.takeWhile isIndent).length = text.dropWhile isIndent :=
    Cursor.drop_length_takeWhile isIndent text
  rw [opensHash, ← gap]
  rfl

/-- The blank does not decide whether its line is a comment. -/
theorem opensHash_eq {last : Option Char} {front back : List Char} {c : Char}
    (place : AtEdge last front c back) :
    opensHash (front ++ c :: back) = opensHash (front ++ back) := by
  induction front generalizing last with
  | nil =>
      rw [List.nil_append, List.nil_append]
      by_cases indent : isIndent c = true
      · rw [opensHash, List.dropWhile_cons_of_pos indent]
        rfl
      · have ends : endsLine back = true := by
          rcases place.edge with ⟨indented, -⟩ | ends
          · exact absurd indented indent
          · exact ends
        have solid : c ≠ '#' := by
          rintro rfl
          exact absurd place.blank (by decide)
        have first : opensHash (c :: back) = false := by
          simp [opensHash, List.dropWhile_cons_of_neg indent, solid]
        rcases endsLine_cases ends with rfl | ⟨rest, rfl⟩
        · exact first
        · exact first
  | cons d front ih =>
      rw [List.cons_append, List.cons_append, opensHash, opensHash]
      by_cases indent : isIndent d = true
      · rw [List.dropWhile_cons_of_pos indent, List.dropWhile_cons_of_pos indent]
        exact ih place.tail
      · rw [List.dropWhile_cons_of_neg indent, List.dropWhile_cons_of_neg indent]
        rfl

theorem restOfLine_pos_of_opensHash {text : List Char} (opens : opensHash text = true) :
    ∃ index, restOfLine text = index + 1 := by
  cases text with
  | nil => cases opens
  | cons d rest =>
      have inLine : d ≠ '\n' := by
        rintro rfl
        cases opens
      exact ⟨restOfLine rest, restOfLine_cons_of_ne inLine rest⟩

theorem hashComment?_blind : BlindToEdges hashComment? where
  last := by
    intro a b text same
    rw [hashComment?_eq, hashComment?_eq, same]
  newline := by
    intro last rest
    rw [hashComment?_eq]
    have closed : opensHash ('\n' :: rest) = false := rfl
    rw [closed, Bool.and_false]
    rfl
  ending := by
    intro last text length found
    rw [hashComment?_eq, Option.ite_none_right_eq_some, Bool.and_eq_true] at found
    obtain ⟨⟨-, opens⟩, same⟩ := found
    obtain ⟨index, filled⟩ := restOfLine_pos_of_opensHash opens
    obtain ⟨e, there, solid⟩ := restOfLine_ending filled
    exact ⟨index, e, (Option.some.inj same).symm.trans filled, there, solid⟩
  before := by
    intro last d c front back place
    rw [hashComment?_eq, hashComment?_eq, ← List.cons_append, ← List.cons_append, opensHash_eq place]
    split
    · exact stretched_restOfLine (d :: front) place.inLine back
    · exact .none
  here := by
    intro last c back place
    have same : opensHash (c :: back) = opensHash back := opensHash_eq place
    rw [hashComment?_eq, hashComment?_eq, hashComment?_eq, same, beginsLine_of_ne place.inLine,
      restOfLine_cons_of_ne place.inLine]
    by_cases opens : (beginsLine last && opensHash back) = true
    · rw [if_pos opens, if_pos opens]
      exact .inr ⟨_, rfl, rfl⟩
    · rw [if_neg opens, if_neg opens]
      exact .inl ⟨rfl, rfl⟩

theorem lastOf_none (text : List Char) : lastOf none text = text.getLast? := by
  rcases List.eq_nil_or_concat text with rfl | ⟨front, d, rfl⟩
  · rfl
  · rw [List.concat_eq_append, lastOf, List.foldl_append, List.getLast?_concat]
    rfl

theorem isBlank_of_newline {next : Option Char} (newline : next.all (· == '\n') = true) :
    next.all isBlank = true := by
  cases next with
  | none => rfl
  | some c =>
      have same : c = '\n' := by simpa using newline
      subst same
      rfl

theorem Spaced.trim_collapseBlanks {text other : List Char} (spaced : Spaced none text other) :
    trim (collapseBlanks text) = trim (collapseBlanks other) := by
  cases spaced with
  | same => rfl
  | @more front back c place =>
      apply trim_collapseBlanks_insert place.blank
      rcases place.edge with ⟨-, begins⟩ | ends
      · left
        rw [lastOf_none] at begins
        exact isBlank_of_newline begins
      · right
        exact isBlank_of_newline ends

/-- The plain text is the same without a blank at the edge of a line: no pass sees it, and what is left
of it is collapsed with the break of the line or trimmed. -/
theorem plain_of_atEdge {front back : List Char} {c : Char} (place : AtEdge none front c back) :
    plain (front ++ c :: back) = plain (front ++ back) := by
  have blocks := blockComment?_blind.erase_spaced (.more place)
  have lines := lineComment?_blind.erase_spaced blocks
  have hashes := hashComment?_blind.erase_spaced lines
  exact hashes.trim_collapseBlanks

end CodeSurvey.Clone
