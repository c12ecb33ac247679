import CodeSurvey.Text.Hex
import CodeSurvey.Text.Units
import CodeSurvey.Yaml.Fault

set_option autoImplicit false

namespace CodeSurvey.Yaml

/-- A text that may turn out to be a key, which only the colon behind it tells: the number of its
token, whether it has to be one, and where it begins. -/
structure OpenKey where
  number : Nat
  required : Bool
  mark : Mark

/-- The state of reading: what is left and where, the depth of brackets, the indentation of the open
blocks, whether a key may begin, the possible keys by depth, and the tokens so far. -/
structure Lexer where
  rest : List Char
  place : Mark
  depth : Nat
  indent : Int
  outer : List Int
  keyAllowed : Bool
  keys : List (Nat × OpenKey)
  tokens : List Token

namespace Lexer

def byteOrderMark : Char := Char.ofNat 0xFEFF

def start (text : List Char) : Lexer :=
  ⟨text, ⟨0, 0, 0⟩, 0, -1, [], true, [], []⟩

/-- Passes over one character. A carriage return before a newline does not end a line. -/
def advance (s : Lexer) : Lexer :=
  match s.rest with
  | [] => s
  | c :: rest =>
    let ends := isLineEnd c && !(c == '\r' && rest.head? == some '\n')
    let place : Mark :=
      if ends then ⟨s.place.index + 1, s.place.line + 1, 0⟩
      else
        ⟨s.place.index + 1, s.place.line,
          if c = byteOrderMark then s.place.column else s.place.column + 1⟩
    { s with rest, place }

def advanceBy : Nat → Lexer → Lexer
  | 0, s => s
  | n + 1, s => advanceBy n s.advance

def advanceWhile (allowed : Char → Bool) (s : Lexer) : Lexer :=
  advanceBy (s.rest.takeWhile allowed).length s

/-- Passes over a line end and gives it; all but two are given as a newline. -/
def lineEnd? (s : Lexer) : Option (Char × Lexer) :=
  match s.rest with
  | '\r' :: '\n' :: _ => some ('\n', s.advance.advance)
  | c :: _ =>
    if isLineEnd c then
      some (if c.toNat = 0x2028 ∨ c.toNat = 0x2029 then c else '\n', s.advance)
    else none
  | [] => none

def push (s : Lexer) (kind : Kind) (mark : Mark) : Lexer :=
  { s with tokens := s.tokens ++ [⟨kind, mark⟩] }

/-- Whether one of the two document marks stands here. -/
def atSeparator (s : Lexer) : Bool :=
  (["---".toList, "...".toList].contains (s.rest.take 3)) && isGapNext (s.rest.drop 3)

/-- Passes over blanks, comments and line ends. Outside of brackets a key may begin on a new
line. -/
def skipGap : Nat → Lexer → Lexer
  | 0, s => s
  | n + 1, s =>
    let s := s.advanceWhile (· == ' ')
    let s := if s.rest.head? = some '#' then s.advanceWhile (!isLineEnd ·) else s
    match s.lineEnd? with
    | some (_, s) => skipGap n (if s.depth = 0 then { s with keyAllowed := true } else s)
    | none => s

def keyLimit : Nat := 1024

/-- Whether a key can no longer have a colon: its line has ended or it is too long. -/
def isStale (s : Lexer) (key : OpenKey) : Bool :=
  key.mark.line != s.place.line || keyLimit < s.place.index - key.mark.index

def lostKey (s : Lexer) (key : OpenKey) : Fault :=
  ⟨.keyWithoutColon, some key.mark, s.place⟩

/-- Forgets the keys that can no longer have a colon. -/
def staleKeys (s : Lexer) : Except Fault Lexer :=
  match s.keys.find? fun (_, key) => s.isStale key && key.required with
  | some (_, key) => .error (s.lostKey key)
  | none => .ok { s with keys := s.keys.filter fun (_, key) => !s.isStale key }

def dropKey (s : Lexer) : Except Fault Lexer :=
  match s.keys.find? (·.1 == s.depth) with
  | some (_, key) =>
    if key.required then .error (s.lostKey key)
    else .ok { s with keys := s.keys.filter (·.1 != s.depth) }
  | none => .ok s

/-- Notes that a key may begin here. It has to be one if the line is at the indentation of its
block. -/
def saveKey (s : Lexer) : Except Fault Lexer :=
  if s.keyAllowed then do
    let required := s.depth == 0 && s.indent == s.place.column
    let key : OpenKey := ⟨s.tokens.length, required, s.place⟩
    let s ← s.dropKey
    return { s with keys := (s.depth, key) :: s.keys }
  else .ok s

/-- Closes blocks that are deeper than a column: their indentations are left one after another. -/
def closeBlocks (column : Int) (mark : Mark) :
    Int → List Int → List Token → Int × List Int × List Token
  | indent, [], tokens => (indent, [], tokens)
  | indent, next :: outer, tokens =>
    if column < indent then closeBlocks column mark next outer (tokens ++ [⟨.blockEnd, mark⟩])
    else (indent, next :: outer, tokens)

/-- Closes the blocks that end at a column. Inside of brackets columns mean nothing. -/
def unwind (s : Lexer) (column : Int) : Lexer :=
  if s.depth = 0 then
    let (indent, outer, tokens) := closeBlocks column s.place s.indent s.outer s.tokens
    { s with indent, outer, tokens }
  else s

/-- Opens a block at a column if it is deeper than the open ones, with a token before the one of a
given number. -/
def openBlock (s : Lexer) (kind : Kind) (number : Nat) (mark : Mark) : Lexer :=
  if s.indent < mark.column then
    { s with
      indent := mark.column
      outer := s.indent :: s.outer
      tokens := s.tokens.insertIdx number ⟨kind, mark⟩ }
  else s

def plainLength (inBrackets : Bool) : List Char → Nat
  | [] => 0
  | c :: rest =>
    let bracket (x : Char) : Bool := [',', '[', ']', '\x7b', '\x7d'].contains x
    if isGapNext [c] || (c == ':' && (isGapNext rest || (inBrackets && rest.head?.any bracket))) ||
        (inBrackets && (bracket c || c == '?')) then 0
    else plainLength inBrackets rest + 1

/-- Line ends and spaces inside of a plain text, and whether a document mark follows one of them. -/
def plainBreaks : Nat → List Char → Lexer → List Char × Bool × Lexer
  | 0, breaks, s => (breaks, false, s)
  | n + 1, breaks, s =>
    if s.rest.head? = some ' ' then plainBreaks n breaks s.advance
    else
      match s.lineEnd? with
      | some (c, s) =>
        if s.atSeparator then (breaks, true, s) else plainBreaks n (breaks ++ [c]) s
      | none => (breaks, false, s)

/-- What a line end inside of a text stands for: a space, unless further line ends follow. -/
def folded (first : Char) (breaks : List Char) : List Char :=
  (if first ≠ '\n' then [first] else if breaks.isEmpty then [' '] else []) ++ breaks

/-- The blanks behind a part of a plain text, as they are read if the text goes on. -/
def plainGap (s : Lexer) : List Char × Lexer :=
  let gap := s.rest.takeWhile (· == ' ')
  let s := advanceBy gap.length s
  match s.lineEnd? with
  | some (c, s) =>
    let s := { s with keyAllowed := true }
    if s.atSeparator then ([], s)
    else
      let (breaks, separated, s) := plainBreaks s.rest.length [] s
      (if separated then [] else folded c breaks, s)
  | none => (gap, s)

/-- A plain text: parts and the blanks between them. Outside of brackets its lines are deeper than
the block around. -/
def readPlain (indent : Int) : Nat → List Char → List Char → Lexer → List Char × Lexer
  | 0, found, _, s => (found, s)
  | n + 1, found, gap, s =>
    let length := plainLength (s.depth != 0) s.rest
    if s.rest.head? = some '#' ∨ length = 0 then (found, s)
    else
      let found := found ++ gap ++ s.rest.take length
      let (gap, s) := plainGap (advanceBy length { s with keyAllowed := false })
      if gap.isEmpty ∨ s.rest.head? = some '#' ∨ (s.depth = 0 ∧ s.place.column < indent) then
        (found, s)
      else readPlain indent n found gap s

def escaped? (c : Char) : Option Char :=
  ([('0', 0), ('a', 7), ('b', 8), ('t', 9), ('\t', 9), ('n', 10), ('v', 11), ('f', 12), ('r', 13),
    ('e', 27), (' ', 32), ('"', 34), ('\\', 92), ('/', 47), ('N', 0x85), ('_', 0xA0), ('L', 0x2028),
    ('P', 0x2029)].find? fun (mark, _) => mark == c).map fun (_, n) => Char.ofNat n

def escapeDigits? (c : Char) : Option Nat :=
  ([('x', 2), ('u', 4), ('U', 8)].find? fun (mark, _) => mark == c).map (·.2)

def quotedBreaks (start : Mark) : Nat → List Char → Lexer → Except Fault (List Char × Lexer)
  | 0, breaks, s => .ok (breaks, s)
  | n + 1, breaks, s =>
    if s.atSeparator then .error ⟨.separatorInQuote, some start, s.place⟩
    else
      let s := s.advanceWhile fun c => c == ' ' || c == '\t'
      match s.lineEnd? with
      | some (c, s) => quotedBreaks start n (breaks ++ [c]) s
      | none => .ok (breaks, s)

/-- What an escape means, as numbers of characters; the state is behind the backslash. -/
def readEscape (start : Mark) (s : Lexer) : Except Fault (List Nat × Lexer) :=
  match s.rest with
  | [] => .error ⟨.unknownEscape none, some start, s.place⟩
  | c :: _ =>
    match escaped? c, escapeDigits? c, s.lineEnd? with
    | some found, _, _ => .ok ([found.toNat], s.advance)
    | none, some length, _ =>
      let s := s.advance
      let digits := s.rest.takeWhile fun d => (Text.hexValue? d).isSome
      if digits.length < length then
        .error ⟨.shortEscape length (s.rest.drop digits.length).head?, some start, s.place⟩
      else
        let code := (Text.hexNumber? (digits.take length)).getD 0
        if Text.maxCode < code then
          let fault : ValueFault := if code < Nat.pow 2 31 then .noCharacter else .wideCharacter
          .error ⟨.value fault, some start, s.place⟩
        else .ok ([code], advanceBy length s)
    | none, none, some (_, s) =>
      (quotedBreaks start s.rest.length [] s).map fun (breaks, s) => (breaks.map Char.toNat, s)
    | none, none, none => .error ⟨.unknownEscape (some c), some start, s.place⟩

def quotedGap (start : Mark) (s : Lexer) : Except Fault (List Char × Lexer) :=
  let gap := s.rest.takeWhile fun c => c == ' ' || c == '\t'
  let s := advanceBy gap.length s
  if s.rest.isEmpty then .error ⟨.unclosedQuote, some start, s.place⟩
  else
    match s.lineEnd? with
    | some (c, s) => (quotedBreaks start (s.rest.length + 1) [] s).map fun (breaks, s) =>
        (folded c breaks, s)
    | none => .ok (gap, s)

/-- A quoted text up to its closing mark, as numbers of characters. -/
def readQuoted (double : Bool) (start : Mark) :
    Nat → List Nat → Lexer → Except Fault (List Nat × Lexer)
  | 0, found, s => .ok (found, s)
  | n + 1, found, s =>
    match s.rest with
    | '\'' :: rest =>
      if double then readQuoted double start n (found ++ ['\''.toNat]) s.advance
      else if rest.head? = some '\'' then
        readQuoted double start n (found ++ ['\''.toNat]) s.advance.advance
      else .ok (found, s.advance)
    | '"' :: _ =>
      if double then .ok (found, s.advance)
      else readQuoted double start n (found ++ ['"'.toNat]) s.advance
    | c :: rest =>
      if c = '\\' ∧ double then do
        let (part, s) ← readEscape start s.advance
        readQuoted double start n (found ++ part) s
      else if isGapNext (c :: rest) then do
        let (part, s) ← quotedGap start s
        readQuoted double start n (found ++ part.map Char.toNat) s
      else readQuoted double start n (found ++ [c.toNat]) s.advance
    | [] => .error ⟨.unclosedQuote, some start, s.place⟩

/-- A token of one or more characters that stands for itself. -/
def mark (s : Lexer) (kind : Kind) (length : Nat) : Lexer :=
  advanceBy length (s.push kind s.place)

def fetchEnd (s : Lexer) : Except Fault Lexer := do
  let s ← (s.unwind (-1)).dropKey
  return { s.push .streamEnd s.place with keyAllowed := false, keys := [] }

def fetchSeparator (s : Lexer) (kind : Kind) : Except Fault Lexer := do
  let s ← (s.unwind (-1)).dropKey
  return { s.mark kind 3 with keyAllowed := false }

def fetchOpen (s : Lexer) (kind : Kind) : Except Fault Lexer := do
  let s ← s.saveKey
  return { s.mark kind 1 with depth := s.depth + 1, keyAllowed := true }

def fetchClose (s : Lexer) (kind : Kind) : Except Fault Lexer := do
  let s ← s.dropKey
  return { s.mark kind 1 with depth := s.depth - 1, keyAllowed := false }

def fetchComma (s : Lexer) : Except Fault Lexer := do
  let s ← s.dropKey
  return { s.mark .comma 1 with keyAllowed := true }

def fetchEntry (s : Lexer) : Except Fault Lexer := do
  if s.depth = 0 ∧ !s.keyAllowed then throw ⟨.misplacedEntry, none, s.place⟩
  let s := if s.depth = 0 then s.openBlock .blockSequence s.tokens.length s.place else s
  let s ← s.dropKey
  return { s.mark .entry 1 with keyAllowed := true }

def fetchKey (s : Lexer) : Except Fault Lexer := do
  if s.depth = 0 ∧ !s.keyAllowed then throw ⟨.misplacedKey, none, s.place⟩
  let s := if s.depth = 0 then s.openBlock .blockMapping s.tokens.length s.place else s
  let s ← s.dropKey
  return { s.mark .key 1 with keyAllowed := s.depth == 0 }

/-- A colon. The possible key before it becomes one. -/
def fetchValue (s : Lexer) : Except Fault Lexer :=
  match s.keys.find? (·.1 == s.depth) with
  | some (_, key) =>
    let s := { s with
      keys := s.keys.filter (·.1 != s.depth)
      -- The tokens of the key itself are there already.
      tokens := s.tokens.insertIdx key.number ⟨.key, key.mark⟩ }
    let s := if s.depth = 0 then s.openBlock .blockMapping key.number key.mark else s
    .ok { s.mark .value 1 with keyAllowed := false }
  | none => do
    if s.depth = 0 ∧ !s.keyAllowed then throw ⟨.misplacedValue, none, s.place⟩
    let s := if s.depth = 0 then s.openBlock .blockMapping s.tokens.length s.place else s
    let s ← s.dropKey
    return { s.mark .value 1 with keyAllowed := s.depth == 0 }

def fetchQuoted (s : Lexer) (double : Bool) : Except Fault Lexer := do
  let s ← s.saveKey
  let start := s.place
  let (codes, behind) ← readQuoted double start (s.rest.length + 1) [] s.advance
  return { behind.push (.scalar (Text.ofCodes codes) false) start with keyAllowed := false }

def fetchPlain (s : Lexer) : Except Fault Lexer := do
  let s ← s.saveKey
  let (text, behind) :=
    readPlain (s.indent + 1) s.rest.length [] [] { s with keyAllowed := false }
  return behind.push (.scalar text true) s.place

/-- Characters that begin something else than a plain text. -/
def indicators : List Char :=
  ['-', '?', ':', ',', '[', ']', '\x7b', '\x7d', '#', '&', '*', '!', '|', '>', '\'', '"', '%', '@',
    Char.ofNat 0x60]

def atPlain (s : Lexer) : Bool :=
  match s.rest with
  | [] => false
  | c :: rest =>
    !(isGapNext [c] || indicators.contains c) ||
      (!isGapNext rest && (c == '-' || (s.depth == 0 && (c == '?' || c == ':'))))

/-- Whether a key or a value mark stands here: outside of brackets a blank follows it. -/
def atMark (s : Lexer) : Bool :=
  s.depth != 0 || isGapNext (s.rest.drop 1)

/-- The next token, chosen by its first character. Directives, anchors, aliases, tags and block
scalars are not read: a text with one of them ends here in the cause `unsupported`. -/
def fetchToken (s : Lexer) : Except Fault Lexer :=
  match s.rest with
  | [] => s.fetchEnd
  | c :: rest =>
    -- A directive.
    if s.place.column = 0 ∧ c = '%' then .error ⟨.unsupported, none, s.place⟩
    else if s.place.column = 0 ∧ s.atSeparator then
      s.fetchSeparator (if c = '-' then .documentStart else .documentEnd)
    else if c = '[' then s.fetchOpen .openList
    else if c = '\x7b' then s.fetchOpen .openMap
    else if c = ']' then s.fetchClose .closeList
    else if c = '\x7d' then s.fetchClose .closeMap
    else if c = ',' then s.fetchComma
    else if c = '-' ∧ isGapNext rest then s.fetchEntry
    else if c = '?' ∧ s.atMark then s.fetchKey
    else if c = ':' ∧ s.atMark then s.fetchValue
    -- Aliases, anchors, tags and block scalars.
    else if c = '*' ∨ c = '&' ∨ c = '!' ∨ ((c = '|' ∨ c = '>') ∧ s.depth = 0) then
      .error ⟨.unsupported, none, s.place⟩
    else if c = '\'' then s.fetchQuoted false
    else if c = '"' then s.fetchQuoted true
    else if s.atPlain then s.fetchPlain
    else .error ⟨.character c, none, s.place⟩

/-- One step: over the blanks, out of the blocks that end, and over the next token. -/
def fetch (s : Lexer) : Except Fault Lexer := do
  let s := if s.place.index = 0 ∧ s.rest.head? = some byteOrderMark then s.advance else s
  let s ← (skipGap (s.rest.length + 1) s).staleKeys
  let s ← (s.unwind s.place.column).fetchToken
  s.staleKeys

/-- How many of the tokens are certain: one that may become a key is not, since a token may come
before it. -/
def certain (s : Lexer) : Nat :=
  s.keys.foldl (fun least (_, key) => min least key.number) s.tokens.length

/-- All tokens, or the certain ones before a fault and the fault. -/
def run : Nat → Lexer → List Token × Option Fault
  | 0, s => (s.tokens, none)
  | n + 1, s =>
    match s.fetch with
    | .error fault => (s.tokens.take s.certain, some fault)
    | .ok next =>
      if (next.tokens.getLast?.any (·.kind == .streamEnd)) then (next.tokens, none) else run n next

end Lexer

/-- The tokens of a text, up to a fault if it has one. Deeper lines open block collections and
shallower ones close them. -/
def tokenize (text : List Char) : List Token × Option Fault :=
  Lexer.run (text.length + 2) (Lexer.start text)

end CodeSurvey.Yaml
