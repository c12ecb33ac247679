import CodeSurvey.Pattern.Basic

set_option autoImplicit false

namespace CodeSurvey

/-- A match: the characters before its two ends, counted, and the captured parts, latest first. -/
structure Found where
  start : Nat
  stop : Nat
  parts : List (Nat × List Char)

namespace Found

/-- A captured part; of several under one number the last one captured. -/
def part? (found : Found) (slot : Nat) : Option (List Char) :=
  (found.parts.find? (·.1 == slot)).map (·.2)

def part (found : Found) (slot : Nat) : List Char :=
  (found.part? slot).getD []

/-- The text around a match, put together. -/
def cutFrom (found : Found) (text : List Char) : List Char :=
  text.take found.start ++ text.drop found.stop

end Found

namespace Pattern

def matchAt (p : Pattern) (c : Cursor) : Option Found :=
  (p.run c some).map fun behind => ⟨c.pos, behind.pos, behind.parts⟩

def matchStart (p : Pattern) (text : List Char) : Option Found :=
  p.matchAt (Cursor.start text)

def searchFrom (p : Pattern) : List Char → Nat → Option Char → Option Found
  | [], pos, last => p.matchAt ⟨pos, last, [], []⟩
  | x :: rest, pos, last =>
    match p.matchAt ⟨pos, last, x :: rest, []⟩ with
    | some found => some found
    | none => searchFrom p rest (pos + 1) (some x)

def search (p : Pattern) (text : List Char) : Option Found :=
  p.searchFrom text 0 none

def occursIn (p : Pattern) (text : List Char) : Bool :=
  (p.search text).isSome

/-- The matches in what follows a place, without the next `skip` characters: those belong to a match
already found. -/
def scanFrom (p : Pattern) : List Char → Nat → Option Char → Nat → List Found
  | [], _, _, _ => []
  | x :: rest, pos, _, skip + 1 => scanFrom p rest (pos + 1) (some x) skip
  | x :: rest, pos, last, 0 =>
    match p.matchAt ⟨pos, last, x :: rest, []⟩ with
    | some found => found :: scanFrom p rest (pos + 1) (some x) (found.stop - found.start - 1)
    | none => scanFrom p rest (pos + 1) (some x) 0

/-- All matches in a text that do not overlap, from left to right. -/
def scan (p : Pattern) (text : List Char) : List Found :=
  p.scanFrom text 0 none 0

def occurrences (p : Pattern) (text : List Char) : Nat :=
  (p.scan text).length

end Pattern

end CodeSurvey
