import CodeSurvey.Text.Blank
import CodeSurvey.Text.Word

set_option autoImplicit false

namespace CodeSurvey

open Text

/-- A place in a text: how many characters stand before it, the last of them, those that follow, and
the parts captured on the way, latest first. -/
structure Cursor where
  pos : Nat
  last : Option Char
  rest : List Char
  parts : List (Nat × List Char)

namespace Cursor

def start (text : List Char) : Cursor :=
  ⟨0, none, text, []⟩

def upTo (c later : Cursor) : List Char :=
  c.rest.take (later.pos - c.pos)

/-- Whether exactly one of the two neighbours of a place is a word character. -/
def atEdge (c : Cursor) : Bool :=
  c.last.any isWord != c.rest.head?.any isWord

/-- The places that are reached over characters of one kind, longest way first; `shorter` holds the
places already passed. -/
def reach (allowed : Char → Bool) (parts : List (Nat × List Char)) :
    List Char → Nat → Option Char → List Cursor → List Cursor
  | [], pos, last, shorter => ⟨pos, last, [], parts⟩ :: shorter
  | x :: rest, pos, last, shorter =>
    if allowed x then
      reach allowed parts rest (pos + 1) (some x) (⟨pos, last, x :: rest, parts⟩ :: shorter)
    else ⟨pos, last, x :: rest, parts⟩ :: shorter

/-- The places after at least `least` characters of one kind, in the order they are tried. -/
def spanEnds (allowed : Char → Bool) (least : Nat) (greedy : Bool) (c : Cursor) : List Cursor :=
  let places := reach allowed c.parts c.rest c.pos c.last []
  let enough := places.take (places.length - least)
  if greedy then enough else enough.reverse

end Cursor

/-- What may stand at a place of a text. Choices are tried in order, and when the rest fails the
last open choice is taken up again, so of all matches at one place the first in that order is
found. -/
inductive Pattern where
  | empty
  | one (allowed : Char → Bool)
  | seq (first second : Pattern)
  | alt (first second : Pattern)
  /-- At least `least` characters of a kind: as many as possible if `greedy`, else as few. -/
  | span (allowed : Char → Bool) (least : Nat) (greedy : Bool)
  /-- A pattern any number of times, as often as possible. -/
  | star (body : Pattern)
  /-- A pattern whose characters are captured under a number. -/
  | part (slot : Nat) (body : Pattern)
  /-- A place between a word character and another one or an end. -/
  | edge
  | lineStart
  | textStart
  /-- The end of the text, or the place before a newline that ends it. -/
  | textEnd
  /-- A place where a pattern does not match. -/
  | absent (body : Pattern)

namespace Pattern

/-- Repeats `body` while it moves on, at most as often as the first argument says, and continues
from the last place that lets `next` succeed. -/
def repeatRun (body : Cursor → (Cursor → Option Cursor) → Option Cursor) :
    Nat → Cursor → (Cursor → Option Cursor) → Option Cursor
  | 0, c, next => next c
  | n + 1, c, next =>
    -- A round that takes nothing is refused, or the rounds would never end.
    match body c fun c' => if c.pos < c'.pos then repeatRun body n c' next else none with
    | some found => some found
    | none => next c

/-- Matches a pattern at a place and hands the place behind it to `next`; when `next` refuses, the
following choice is tried. -/
def run : Pattern → Cursor → (Cursor → Option Cursor) → Option Cursor
  | .empty, c, next => next c
  | .one allowed, c, next =>
    match c.rest with
    | x :: rest => if allowed x then next ⟨c.pos + 1, some x, rest, c.parts⟩ else none
    | [] => none
  | .seq first second, c, next => first.run c fun c' => second.run c' next
  | .alt first second, c, next =>
    match first.run c next with
    | some found => some found
    | none => second.run c next
  | .span allowed least greedy, c, next => (c.spanEnds allowed least greedy).findSome? next
  | .star body, c, next => repeatRun body.run c.rest.length c next
  | .part slot body, c, next =>
    body.run c fun c' => next ⟨c'.pos, c'.last, c'.rest, (slot, c.upTo c') :: c'.parts⟩
  | .edge, c, next => if c.atEdge then next c else none
  | .lineStart, c, next => if c.last.all (· == '\n') then next c else none
  | .textStart, c, next => if c.last.isNone then next c else none
  | .textEnd, c, next => if c.rest.isEmpty || c.rest == ['\n'] then next c else none
  | .absent body, c, next =>
    match body.run c some with
    | some _ => none
    | none => next c

def text (word : String) : Pattern :=
  word.toList.foldr (fun x rest => seq (one (· == x)) rest) empty

def all (patterns : List Pattern) : Pattern :=
  patterns.foldr seq empty

def any : List Pattern → Pattern
  | [] => absent empty
  | [only] => only
  | first :: more => alt first (any more)

def optional (body : Pattern) : Pattern :=
  alt body empty

/-- Characters of a kind, as many as possible. -/
def many (allowed : Char → Bool) : Pattern :=
  span allowed 0 true

def many1 (allowed : Char → Bool) : Pattern :=
  span allowed 1 true

/-- Characters of a kind, as few as possible. -/
def few (allowed : Char → Bool) : Pattern :=
  span allowed 0 false

def few1 (allowed : Char → Bool) : Pattern :=
  span allowed 1 false

def blanks : Pattern :=
  many isBlank

def blanks1 : Pattern :=
  many1 isBlank

def char (x : Char) : Pattern :=
  one (· == x)

end Pattern

end CodeSurvey
