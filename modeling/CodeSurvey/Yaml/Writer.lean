import CodeSurvey.Text.Hex
import CodeSurvey.Value.Basic
import CodeSurvey.Yaml.Mark
import CodeSurvey.Yaml.Plain

set_option autoImplicit false

namespace CodeSurvey.Yaml

open Text

/-- The column behind which texts are folded. -/
def foldColumn : Nat := 80

/-- Keys of fewer characters are written before their colon. -/
def simpleKeyLimit : Nat := 123

/-- Line ends that are written as such in quoted texts. -/
def isWrittenBreak (c : Char) : Bool :=
  [0xA, 0x85, 0x2028, 0x2029].contains c.toNat

def isGapChar (c : Char) : Bool :=
  isGapNext [c] || c.toNat == 0

inductive Style where
  | plain
  | single
  | double
  deriving DecidableEq

namespace Style

def needsEscape (c : Char) : Bool :=
  !(c == '\n' || (' ' ≤ c && c ≤ '~'))

/-- Whether a text begins as no plain text may. Three of the characters are only bad before a gap. -/
def badStart (text : List Char) : Bool :=
  match text with
  | [] => false
  | c :: rest =>
    ['#', ',', '[', ']', '\x7b', '\x7d', '&', '*', '!', '|', '>', '\'', '"', '%', '@',
      Char.ofNat 0x60].contains c ||
    ((c == '?' || c == ':' || c == '-') && rest.head?.all isGapChar)

/-- Whether a colon before a gap or a number sign behind one stands in a text behind its first
character. -/
def badInside : List Char → Bool
  | a :: b :: rest =>
    (b == ':' && rest.head?.all isGapChar) || (b == '#' && isGapChar a) || badInside (b :: rest)
  | _ => false

/-- Whether a text can be read as a mark of the document or of its structure. -/
def hasIndicators (text : List Char) : Bool :=
  "---".toList.isPrefixOf text || "...".toList.isPrefixOf text || badStart text || badInside text

/-- Whether a character of one kind comes right before one of another. -/
def hasPair (first second : Char → Bool) (text : List Char) : Bool :=
  (text.zip (text.drop 1)).any fun (a, b) => first a && second b

def isMultiline (text : List Char) : Bool :=
  text.any isWrittenBreak

def allowsPlain (text : List Char) : Bool :=
  let isEdge (c : Char) : Bool := c == ' ' || isWrittenBreak c
  !(text.head?.any isEdge || text.getLast?.any isEdge || text.any needsEscape ||
    isMultiline text || hasIndicators text)

def allowsSingle (text : List Char) : Bool :=
  !(text.any needsEscape || hasPair isWrittenBreak (· == ' ') text ||
    hasPair (· == ' ') isWrittenBreak text)

/-- The way a text is written: without quotes where it then still means itself, else in single
quotes, and in double quotes where a character has to be escaped. A key that is written before its
colon stays on one line. -/
def ofText (isKey : Bool) (text : List Char) : Style :=
  let meansItself := match Plain.ofText text with | .text => true | _ => false
  if meansItself && allowsPlain text then .plain
  else if allowsSingle text && !(isKey && isMultiline text) then .single
  else .double

end Style

def spaces (count : Nat) : List Char :=
  List.replicate count ' '

/-- Kinds of characters that are written together. -/
def runKind (c : Char) : Nat :=
  if c = ' ' then 0 else if c = '\n' then 1 else 2

/-- Runs of a text without escapes; `column` is where the next one begins. A single space between
two runs may become a new line at `indent`, and a line end is written once more than it counts.
Inside of single quotes a quote is written twice. -/
def writeRuns (quoted fold : Bool) (indent : Nat) (first : Bool) :
    Nat → List (List Char) → List Char
  | _, [] => []
  | column, run :: rest =>
    if run.head? = some '\n' then
      '\n' :: run ++ spaces indent ++ writeRuns quoted fold indent false indent rest
    else if run = [' '] ∧ fold ∧ foldColumn < column ∧ !first ∧ !rest.isEmpty then
      '\n' :: spaces indent ++ writeRuns quoted fold indent false indent rest
    else
      let out := run.flatMap fun c => if quoted ∧ c = '\'' then ['\'', '\''] else [c]
      out ++ writeRuns quoted fold indent false (column + out.length) rest

def runsOf (text : List Char) : List (List Char) :=
  text.splitBy fun a b => runKind a == runKind b

def shortEscapes : List (Nat × Char) :=
  [(0, '0'), (7, 'a'), (8, 'b'), (9, 't'), (10, 'n'), (11, 'v'), (12, 'f'), (13, 'r'), (27, 'e'),
   (34, '"'), (92, '\\'), (0x85, 'N'), (0xA0, '_'), (0x2028, 'L'), (0x2029, 'P')]

def escape? (c : Char) : Option (List Char) :=
  if c ≠ '"' ∧ c ≠ '\\' ∧ ' ' ≤ c ∧ c ≤ '~' then none
  else
    let digits (mark : String) (width : Nat) : List Char :=
      mark.toList ++ (hexText width c.toNat).toList.map Char.toUpper
    match shortEscapes.find? (·.1 == c.toNat) with
    | some (_, short) => some ['\\', short]
    | none =>
      some (if c.toNat ≤ 0xFF then digits "\\x" 2
        else if c.toNat ≤ 0xFFFF then digits "\\u" 4
        else digits "\\U" 8)

/-- A text in double quotes, without them. It is folded behind the limit before a space and around
escapes; `fresh` tells that an escape or a new line comes before, `first` that nothing does. A space
at the beginning of a line is kept by a backslash. -/
def writeDouble (fold : Bool) (indent : Nat) : Bool → Bool → Nat → List Char → List Char
  | _, _, _, [] => []
  | first, fresh, column, c :: rest =>
    let mayFold := fold && !first && !rest.isEmpty
    let kept (next : Option Char) : List Char := if next = some ' ' then ['\\'] else []
    match escape? c with
    | some out =>
      if mayFold ∧ foldColumn + 1 < column + out.length then
        let keep := kept rest.head?
        out ++ '\\' :: '\n' :: spaces indent ++ keep ++
          writeDouble fold indent false true (indent + keep.length) rest
      else out ++ writeDouble fold indent false true (column + out.length) rest
    | none =>
      if mayFold ∧ (c = ' ' ∨ fresh) ∧ foldColumn < column then
        let keep := kept (some c)
        '\\' :: '\n' :: spaces indent ++ keep ++
          c :: writeDouble fold indent false false (indent + keep.length + 1) rest
      else c :: writeDouble fold indent false false (column + 1) rest

/-- A text that begins at a column; its further lines begin at `indent`. -/
def writeText (isKey : Bool) (indent column : Nat) (text : List Char) : String :=
  let fold := !isKey
  String.ofList <|
    match Style.ofText isKey text with
    | .plain => writeRuns false fold indent true column (runsOf text)
    | .single => ['\''] ++ writeRuns true fold indent true (column + 1) (runsOf text) ++ ['\'']
    | .double => ['"'] ++ writeDouble fold indent true false (column + 1) text ++ ['"']

def writeFloat (x : Float) : String :=
  match Decimal.read x with
  | .notANumber => ".nan"
  | .infinite negative => Decimal.signText negative ++ ".inf"
  | .finite .. =>
    let text := (Decimal.text x).toList
    if text.contains '.' then String.ofList text
    else String.ofList (text.takeWhile (· != 'e') ++ ".0".toList ++ text.dropWhile (· != 'e'))

def newLine (indent : Nat) : String :=
  String.ofList ('\n' :: spaces indent)

def isSimpleKey (key : List Char) : Bool :=
  !key.isEmpty && !Style.isMultiline key && key.length < simpleKeyLimit

mutual

/-- What follows a colon or a dash at an indentation. Below a key, a list stays at the indentation
of the key and an object goes deeper; behind a dash both go on in the line. -/
def writeValue (indent column : Nat) (below : Bool) : Value → String
  | .null => " null"
  | .bool true => " true"
  | .bool false => " false"
  | .int n => " " ++ toString n
  | .float x => " " ++ writeFloat x
  | .text s => " " ++ writeText false (indent + 2) column s.toList
  | .date text _ => " " ++ text
  | .list [] => " []"
  | .object [] => " \x7b\x7d"
  | .list (first :: rest) =>
    if below then
      newLine indent ++ (newLine indent).intercalate (writeItems indent (first :: rest))
    else " " ++ (newLine (indent + 2)).intercalate (writeItems (indent + 2) (first :: rest))
  | .object (first :: rest) =>
    let lines := (newLine (indent + 2)).intercalate (writeFields (indent + 2) (first :: rest))
    if below then newLine (indent + 2) ++ lines else " " ++ lines

def writeItems (indent : Nat) : List Value → List String
  | [] => []
  | first :: rest =>
    ("-" ++ writeValue indent (indent + 2) false first) :: writeItems indent rest

def writeFields (indent : Nat) : List (String × Value) → List String
  | [] => []
  | (key, value) :: rest =>
    (if isSimpleKey key.toList then
      let name := writeText true indent indent key.toList
      name ++ ":" ++ writeValue indent (indent + name.length + 2) true value
    else
      "? " ++ writeText false (indent + 2) (indent + 2) key.toList ++ newLine indent ++ ":" ++
        writeValue indent (indent + 2) false value) :: writeFields indent rest

end

def document (fields : Fields) : String :=
  match fields with
  | [] => "\x7b\x7d\n"
  | _ => (newLine 0).intercalate (writeFields 0 fields) ++ "\n"

end CodeSurvey.Yaml
