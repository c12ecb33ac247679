import CodeSurvey.Pattern.Search
import CodeSurvey.Text.Lines
import CodeSurvey.Value.Literal

set_option autoImplicit false

namespace CodeSurvey.Ignore

open Text

inductive Fault where
  /-- Nothing is left behind the negation. -/
  | nothing (pattern : List Char)
  | loneBackslash (pattern : List Char)
  /-- A range of characters whose end comes before its beginning. -/
  | badRange (pattern : List Char)

def Fault.message : Fault → String
  | .nothing pattern => s!"Invalid git pattern: {Literal.quote (String.ofList pattern)}"
  | .loneBackslash pattern => s!"Invalid git pattern: {Literal.quote (String.ofList pattern)}"
  | .badRange pattern => s!"bad character range in {Literal.quote (String.ofList pattern)}"

/-- Which paths a pattern matches. -/
inductive Scope where
  | every
  /-- Paths with a slash. -/
  | nested
  | pattern (p : Pattern)

/-- A pattern that counts, with whether it is negated. -/
structure Rule where
  negated : Bool
  scope : Scope

/-- Any character but the newline. -/
def anyChar (c : Char) : Bool :=
  c != '\n'

def inSegment (c : Char) : Bool :=
  c != '/'

/-- The members of a class of characters: single ones and ranges. None if a range is empty. -/
def members? : List Char → Option (List (Char × Char))
  | a :: '-' :: b :: rest => if b < a then none else (members? rest).map ((a, b) :: ·)
  | a :: rest => (members? rest).map ((a, a) :: ·)
  | [] => some []

/-- A class of characters behind its opening bracket: whether it is negated, its content, and what
follows. A closing bracket that comes first belongs to the content. -/
def bracket? (text : List Char) : Option (Bool × List Char × List Char) :=
  let negated := text.head?.any fun c => c == '!' || c == '^'
  let body := if negated then text.drop 1 else text
  let first := body.take (if body.head? = some ']' then 1 else 0)
  let content := first ++ (body.drop first.length).takeWhile (· != ']')
  if content.length < body.length then some (negated, content, body.drop (content.length + 1))
  else none

inductive Glob where
  | found (p : Pattern)
  /-- A bracket without an end. -/
  | unclosed
  | failed (reason : List Char → Fault)

def Glob.after (p : Pattern) : Glob → Glob
  | .found rest => .found (.seq p rest)
  | other => other

/-- A segment with wildcards. The first argument bounds the number of steps. -/
def glob : Nat → List Char → Glob
  | 0, _ => .found .empty
  | _, [] => .found .empty
  | n + 1, c :: rest =>
    if c = '\\' then
      match rest with
      | [] => .failed .loneBackslash
      | x :: rest => (glob n rest).after (.char x)
    else if c = '*' then (glob n rest).after (.many inSegment)
    else if c = '?' then (glob n rest).after (.one inSegment)
    else if c = '[' then
      match bracket? rest with
      | none => .unclosed
      | some (negated, content, rest) =>
        match members? content with
        | none => .failed .badRange
        | some ranges =>
          let isMember (x : Char) : Bool := ranges.any fun (a, b) => a ≤ x && x ≤ b
          (glob n rest).after (.one fun x => isMember x != negated)
    else (glob n rest).after (.char c)

/-- The segment that stands for any number of segments. -/
def deep : List Char := ['*', '*']

/-- Neighbours that both stand for any number of segments count once. -/
def collapse : List (List Char) → List (List Char)
  | a :: b :: rest => if a = deep ∧ b = deep then collapse (b :: rest) else a :: collapse (b :: rest)
  | short => short

/-- Segments seen from the root: a pattern of one segment may begin anywhere, and one that ends with
a slash means what is below. None if nothing is left. -/
def rooted? (segments : List (List Char)) : Option (List (List Char)) :=
  let moved :=
    match segments with
    | [] :: rest => rest
    | [only] => if only = deep then segments else deep :: segments
    | [first, []] => if first = deep then segments else deep :: segments
    | _ => segments
  if moved.isEmpty then none
  else some (collapse (if moved.getLast? = some [] then moved.dropLast ++ [deep] else moved))

/-- The pattern of a segment that does not stand for several. -/
def single (segment : List Char) : Glob :=
  if segment = ['*'] then .found (.many1 inSegment) else glob segment.length segment

/-- The segments of a pattern from one on. `first` tells that it is the first of all, `slash` that a
slash comes before the next one. -/
def build (first slash : Bool) : List (List Char) → Glob
  | [] => .found .empty
  | segment :: rest =>
    let anchor : Pattern := if first then .textStart else .empty
    if segment = deep then
      if first then
        -- Any directories, or none.
        (build false false rest).after
          (.seq anchor (.optional (.seq (.many1 anyChar) (.char '/'))))
      -- At the end: all that is below.
      else if rest.isEmpty then .found (.char '/')
      else (build false true rest).after (.optional (.seq (.char '/') (.many1 anyChar)))
    else
      let lead : Pattern := .seq anchor (if slash then .char '/' else .empty)
      match single segment with
      | .found p =>
        if rest.isEmpty then .found (.all [lead, p, .alt (.char '/') .textEnd])
        else (build false true rest).after (.seq lead p)
      | other => other

def scopeOf (pattern : List Char) (isDirectory : Bool) (segments : List (List Char)) :
    Except Fault (Option Scope) :=
  if segments = [deep] then .ok (some (if isDirectory then .nested else .every))
  else if segments = [deep, ['*']] then .ok (some .every)
  else if segments = [deep, ['*'], deep] then .ok (some .nested)
  else
    match build true false segments with
    | .found p => .ok (some (.pattern p))
    | .unclosed => .ok none
    | .failed reason => .error (reason pattern)

/-- A pattern without the blanks at its end, unless the last one is escaped. -/
def trimmed (line : List Char) : List Char :=
  if ['\\', ' '].isSuffixOf line then line else trimEnd line

/-- The rule of a line; comments and blank lines have none. -/
def rule? (line : List Char) : Except Fault (Option Rule) := do
  let pattern := trimmed line
  if pattern.isEmpty ∨ pattern.head? = some '#' ∨ pattern = ['/'] then return none
  let negated := pattern.head? == some '!'
  let segments := splitAt '/' (if negated then pattern.drop 1 else pattern)
  match rooted? segments with
  | none => throw (.nothing pattern)
  | some rooted =>
    return (← scopeOf pattern (segments.getLast? == some []) rooted).map (⟨negated, ·⟩)

def rules (lines : List (List Char)) : Except Fault (List Rule) := do
  let found ← (lines.filter fun line => !line.isEmpty).mapM rule?
  return found.filterMap id

def Rule.hits (rule : Rule) (path : List Char) : Bool :=
  match rule.scope with
  | .every => true
  | .nested => path.contains '/'
  | .pattern p => p.occursIn path

/-- Whether rules match a path: the last one that hits it is not negated. -/
def isMatch (rules : List Rule) (path : String) : Bool :=
  ((rules.filter fun rule => rule.hits path.toList).getLast?).any fun rule => !rule.negated

end CodeSurvey.Ignore
