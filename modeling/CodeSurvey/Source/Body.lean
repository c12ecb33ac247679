import CodeSurvey.Language.Family
import CodeSurvey.Text.Lines

set_option autoImplicit false

namespace CodeSurvey.Source

open Text

def depthAfter (depth : Int) (line : List Char) : Int :=
  line.foldl
    (fun depth c => if c = '\x7b' then depth + 1 else if c = '\x7d' then depth - 1 else depth) depth

def endsStatement (line : List Char) : Bool :=
  (trimEnd line).getLast? == some ';'

/-- How many of the lines belong to a body in braces, given the depth before them and whether a
brace has been opened. Before that a statement's end stops the body. -/
def braceSpan : List (List Char) → Int → Bool → Nat
  | [], _, _ => 0
  | line :: rest, depth, opened =>
    let opened := opened || line.contains '\x7b'
    let depth := depthAfter depth line
    -- A line may close more than it opens, so the depth can be negative.
    if opened && depth ≤ 0 then 1
    else if !opened && endsStatement line then 1
    else 1 + braceSpan rest depth opened

/-- Whether a line is an arrow whose body is an expression. -/
def isExpressionArrow (line : List Char) : Bool :=
  hasPart ['=', '>'] line && !line.contains '\x7b'

def braceLength (lines : List (List Char)) : Nat :=
  match lines with
  | [] => 0
  | first :: _ => if isExpressionArrow first then 1 else braceSpan lines 0 false

/-- How far below its declaration an indented body reaches. `own` is the indentation of the
declaration, `base` that of the first body line once it is known, `offset` the distance of the next
line and `last` the furthest line so far. -/
def indentReach (own : Nat) : List (List Char) → Option Nat → Nat → Nat → Nat
  | [], _, _, last => last
  | line :: rest, base, offset, last =>
    if isBlankText line then indentReach own rest base (offset + 1) last
    else
      let indent := indentation line
      match base with
      | none =>
        -- The first line that is not blank sets the depth, a wrapped signature included.
        if indent ≤ own then last else indentReach own rest (some indent) (offset + 1) offset
      | some first => if indent < first then last else indentReach own rest base (offset + 1) offset

def indentLength (lines : List (List Char)) : Nat :=
  match lines with
  | [] => 0
  | first :: rest => indentReach (indentation first) rest none 1 0 + 1

/-- How many lines a body takes; `lines` begin with its declaration. -/
def bodyLength : BodyStyle → List (List Char) → Nat
  | .braces, lines => braceLength lines
  | .indent, lines => indentLength lines

/-- The body that begins on a line and the index of its last line. A body in braces goes down to the
line where they are balanced again, an indented one to the last line that is indented at least as
far as its first one. -/
def body (style : BodyStyle) (lines : List (List Char)) (start : Nat) : List Char × Nat :=
  let below := lines.drop start
  let length := bodyLength style below
  (unlines (below.take length), start + (length - 1))

end CodeSurvey.Source
