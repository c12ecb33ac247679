import CodeSurvey.Yaml.Key
import CodeSurvey.Yaml.Node

set_option autoImplicit false

namespace CodeSurvey.Yaml

namespace Node

/-- Whether a node is the key of fields to take over. -/
def isMergeKey : Node → Bool
  | .scalar text true _ => match Plain.ofText text with | .special .merge => true | _ => false
  | _ => false

abbrev Pairs := List (Node × Node)

mutual

/-- The pairs that a map at a place takes over, and its own ones. -/
def splitPairs (place : Mark) : Pairs → Except Fault (Pairs × Pairs)
  | [] => .ok ([], [])
  | (key, value) :: rest =>
    if key.isMergeKey then do
      let found ← value.source place
      let (taken, own) ← splitPairs place rest
      return (found ++ taken, own)
    else (splitPairs place rest).map fun (taken, own) => (taken, (key, value) :: own)

/-- The pairs that a map at a place takes over from a node. Of a list of maps the last one comes
first. -/
def source (place : Mark) : Node → Except Fault Pairs
  | .map pairs mark => (splitPairs mark pairs).map fun (taken, own) => taken ++ own
  | .list items _ => sourceItems place items
  | .scalar _ _ mark => .error ⟨.mergeSource "scalar", some place, mark⟩

def sourceItems (place : Mark) : List Node → Except Fault Pairs
  | [] => .ok []
  | item :: rest => do
    let found ← item.sourceItem place
    let later ← sourceItems place rest
    return later ++ found

def sourceItem (place : Mark) : Node → Except Fault Pairs
  | .map pairs mark => (splitPairs mark pairs).map fun (taken, own) => taken ++ own
  | other => .error ⟨.mergeItem other.kindName, some place, other.mark⟩

end

/-- What building gives: a value, or a fault and its level. What a collection holds is one level
below it. -/
abbrev Built (α : Type) := Except (Nat × Fault) α

/-- Two results, or the fault that counts: the one at the shallower level, or else the first. -/
def both {α β : Type} : Built α → Built β → Built (α × β)
  | .ok a, .ok b => .ok (a, b)
  | .ok _, .error fault => .error fault
  | .error fault, .ok _ => .error fault
  | .error fault, .error fault' => .error (if fault'.1 < fault.1 then fault' else fault)

def every {α : Type} : List (Built α) → Built (List α)
  | [] => .ok []
  | first :: rest => (both first (every rest)).map fun (a, found) => a :: found

def scalarValue (text : List Char) (plain : Bool) : Except Cause Value :=
  let word := String.ofList text
  if plain then
    match Plain.ofText text with
    | .null => .ok .null
    | .bool b => .ok (.bool b)
    | .int n => .ok (.int n)
    | .float x => .ok (.float x)
    | .date timed => .ok (.date word timed)
    | .special mark => .error (.bareMark mark)
    | .faulty fault => .error (.value fault)
    | .text => .ok (.text word)
  else .ok (.text word)

/-- The key that a node of a map at a place means. A collection is no key, and the mark of a value
means itself. -/
def toKey (place : Mark) (node : Node) : Except Fault Key :=
  match node with
  | .scalar text plain mark =>
    match scalarValue text plain with
    | .ok .null => .ok .null
    | .ok (.bool b) => .ok (.bool b)
    | .ok (.int n) => .ok (.int n)
    | .ok (.float x) => .ok (.float x)
    | .ok (.date text _) => .ok (.date text)
    | .ok _ | .error (.bareMark .value) => .ok (.text (String.ofList text))
    | .error cause => .error ⟨cause, none, mark⟩
  | other => .error ⟨.compoundKey, some place, other.mark⟩

/-- The value of a node at a level. The first argument bounds the depth of nodes. -/
def build : Nat → Nat → Node → Built Value
  | 0, _, _ => .ok .null
  | _, level, .scalar text plain mark =>
    (scalarValue text plain).mapError fun cause => (level, ⟨cause, none, mark⟩)
  | n + 1, level, .list items _ => (every (items.map (build n (level + 1)))).map .list
  | n + 1, level, .map pairs mark => do
    -- What is taken over comes first, so that the own pairs replace it.
    let (taken, own) ← (splitPairs mark pairs).mapError fun fault => (level + 1, fault)
    let found ← every ((taken ++ own).map fun (key, value) =>
      both ((key.toKey mark).mapError fun fault => (level + 1, fault)) (build n (level + 1) value))
    return .object (Key.fields found)

end Node

/-- Whether a character may stand in a document: all but most control characters. -/
def isAllowed (c : Char) : Bool :=
  let n := c.toNat
  n == 9 || n == 0xA || n == 0xD || (0x20 ≤ n && n ≤ 0x7E) || n == 0x85 ||
    (0xA0 ≤ n && n ≤ 0xFFFD) || 0x10000 ≤ n

/-- The deepest nesting of collections that is read. -/
def maxDepth : Nat := 489

/-- The tokens before the first collection that is nested too deeply; `depth` collections are
open. -/
def shallow (depth : Nat) : List Token → List Token
  | [] => []
  | token :: rest =>
    match token.kind with
    | .blockSequence | .blockMapping | .openList | .openMap =>
      if depth < maxDepth then token :: shallow (depth + 1) rest else []
    | .blockEnd | .closeList | .closeMap => token :: shallow (depth - 1) rest
    | _ => token :: shallow depth rest

/-- The value of a document; a text without a document means null. -/
def ofText (text : List Char) : Except Fault Value :=
  match (text.zipIdx).find? fun (c, _) => !isAllowed c with
  | some (c, position) => .error ⟨.control c position, none, default⟩
  | none => do
    let (tokens, fault) := tokenize text
    let read := shallow 0 tokens
    let stop : Fault :=
      if read.length < tokens.length then ⟨.value .tooDeep, none, default⟩
      else fault.getD ⟨.unsupported, none, default⟩
    match ← Node.ofTokens stop read with
    | some node => (node.build (read.length + 1) 0).mapError (·.2)
    | none => return .null

end CodeSurvey.Yaml
