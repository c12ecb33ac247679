import CodeSurvey.Yaml.Lexer

set_option autoImplicit false

namespace CodeSurvey.Yaml

/-- A part of a document and where it begins. -/
inductive Node where
  | scalar (text : List Char) (plain : Bool) (mark : Mark)
  | list (items : List Node) (mark : Mark)
  | map (pairs : List (Node × Node)) (mark : Mark)
  deriving Inhabited

namespace Node

def mark : Node → Mark
  | .scalar _ _ mark => mark
  | .list _ mark => mark
  | .map _ mark => mark

def kindName : Node → String
  | .scalar .. => "scalar"
  | .list .. => "sequence"
  | .map .. => "mapping"

/-- A node that is left out. -/
def absent (mark : Mark) : Node :=
  .scalar [] true mark

/-- What reading gives: a value and the tokens behind it. -/
abbrev Read (α : Type) := Except Fault (α × List Token)

mutual

/-- A node. `block` allows block collections, `loose` also a sequence without an indentation of its
own. The first argument bounds the number of steps; `stop` is the fault where the tokens end. -/
def read (stop : Fault) (block loose : Bool) : Nat → List Token → Read Node
  | 0, _ => .error stop
  | _, [] => .error stop
  | n + 1, token :: rest =>
    match token.kind with
    | .scalar text plain => .ok (.scalar text plain token.mark, rest)
    | .openList => readList stop token.mark true n [] rest
    | .openMap => readMap stop token.mark true n [] rest
    | .entry =>
      if loose then readLoose stop token.mark n [] (token :: rest)
      else .error ⟨.content block .entry, some token.mark, token.mark⟩
    | .blockSequence =>
      if block then readSequence stop token.mark n [] rest
      else .error ⟨.content block .blockSequence, some token.mark, token.mark⟩
    | .blockMapping =>
      if block then readMapping stop token.mark n [] rest
      else .error ⟨.content block .blockMapping, some token.mark, token.mark⟩
    | kind => .error ⟨.content block kind, some token.mark, token.mark⟩

/-- A node, or a missing one before one of some tokens. -/
def readUnless (stop : Fault) (ends : List Kind) (block loose : Bool) : Nat → List Token → Read Node
  | 0, _ => .error stop
  | _, [] => .error stop
  | n + 1, token :: rest =>
    if ends.contains token.kind then .ok (absent token.mark, token :: rest)
    else read stop block loose n (token :: rest)

def readSequence (stop : Fault) (mark : Mark) : Nat → List Node → List Token → Read Node
  | 0, _, _ => .error stop
  | _, _, [] => .error stop
  | n + 1, items, token :: rest =>
    match token.kind with
    | .entry =>
      match readUnless stop [.entry, .blockEnd] true false n rest with
      | .error fault => .error fault
      | .ok (item, rest) => readSequence stop mark n (items ++ [item]) rest
    | .blockEnd => .ok (.list items mark, rest)
    | kind => .error ⟨.sequenceEnd kind, some mark, token.mark⟩

/-- The entries of a sequence without an indentation of its own. -/
def readLoose (stop : Fault) (mark : Mark) : Nat → List Node → List Token → Read Node
  | 0, _, _ => .error stop
  | _, _, [] => .error stop
  | n + 1, items, token :: rest =>
    match token.kind with
    | .entry =>
      match readUnless stop [.entry, .key, .value, .blockEnd] true false n rest with
      | .error fault => .error fault
      | .ok (item, rest) => readLoose stop mark n (items ++ [item]) rest
    | _ => .ok (.list items mark, token :: rest)

def readMapping (stop : Fault) (mark : Mark) :
    Nat → List (Node × Node) → List Token → Read Node
  | 0, _, _ => .error stop
  | _, _, [] => .error stop
  | n + 1, pairs, token :: rest =>
    match token.kind with
    | .key =>
      match readUnless stop [.key, .value, .blockEnd] true true n rest with
      | .error fault => .error fault
      | .ok (key, rest) =>
        match readValue stop [.key, .value, .blockEnd] true n rest with
        | .error fault => .error fault
        | .ok (value, rest) => readMapping stop mark n (pairs ++ [(key, value)]) rest
    | .blockEnd => .ok (.map pairs mark, rest)
    | kind => .error ⟨.mappingEnd kind, some mark, token.mark⟩

def readValue (stop : Fault) (ends : List Kind) (block : Bool) : Nat → List Token → Read Node
  | 0, _ => .error stop
  | _, [] => .error stop
  | n + 1, token :: rest =>
    match token.kind with
    | .value => readUnless stop ends block block n rest
    | _ => .ok (absent token.mark, token :: rest)

def readList (stop : Fault) (mark : Mark) (first : Bool) :
    Nat → List Node → List Token → Read Node
  | 0, _, _ => .error stop
  | _, _, [] => .error stop
  | n + 1, items, token :: rest =>
    match token.kind with
    | .closeList => .ok (.list items mark, rest)
    | .comma =>
      if first then readItem stop mark n items (token :: rest)
      else readItem stop mark n items rest
    | kind =>
      if first then readItem stop mark n items (token :: rest)
      else .error ⟨.listEnd kind, some mark, token.mark⟩

/-- An item of a list in brackets and what follows. An item may be a single pair. -/
def readItem (stop : Fault) (mark : Mark) : Nat → List Node → List Token → Read Node
  | 0, _, _ => .error stop
  | _, _, [] => .error stop
  | n + 1, items, token :: rest =>
    match token.kind with
    | .closeList => .ok (.list items mark, rest)
    | .key =>
      match readUnless stop [.value, .comma, .closeList] false false n rest with
      | .error fault => .error fault
      | .ok (key, rest) =>
        match readValue stop [.comma, .closeList] false n rest with
        | .error fault => .error fault
        | .ok (value, rest) =>
          readList stop mark false n (items ++ [.map [(key, value)] token.mark]) rest
    | _ =>
      match read stop false false n (token :: rest) with
      | .error fault => .error fault
      | .ok (item, rest) => readList stop mark false n (items ++ [item]) rest

def readMap (stop : Fault) (mark : Mark) (first : Bool) :
    Nat → List (Node × Node) → List Token → Read Node
  | 0, _, _ => .error stop
  | _, _, [] => .error stop
  | n + 1, pairs, token :: rest =>
    match token.kind with
    | .closeMap => .ok (.map pairs mark, rest)
    | .comma =>
      if first then readPair stop mark n pairs (token :: rest)
      else readPair stop mark n pairs rest
    | kind =>
      if first then readPair stop mark n pairs (token :: rest)
      else .error ⟨.mapEnd kind, some mark, token.mark⟩

/-- A pair of a map in brackets and what follows. A key may stand alone. -/
def readPair (stop : Fault) (mark : Mark) : Nat → List (Node × Node) → List Token → Read Node
  | 0, _, _ => .error stop
  | _, _, [] => .error stop
  | n + 1, pairs, token :: rest =>
    match token.kind with
    | .closeMap => .ok (.map pairs mark, rest)
    | .key =>
      match readUnless stop [.value, .comma, .closeMap] false false n rest with
      | .error fault => .error fault
      | .ok (key, rest) =>
        match readValue stop [.comma, .closeMap] false n rest with
        | .error fault => .error fault
        | .ok (value, rest) => readMap stop mark false n (pairs ++ [(key, value)]) rest
    | _ =>
      match read stop false false n (token :: rest) with
      | .error fault => .error fault
      | .ok (key, rest) => readMap stop mark false n (pairs ++ [(key, absent key.mark)]) rest

end

def readEnd (stop : Fault) (node : Node) (tokens : List Token) : Except Fault Node :=
  match tokens.dropWhile (·.kind == .documentEnd) with
  | [] => .error stop
  | token :: _ =>
    match token.kind with
    | .streamEnd => .ok node
    | .documentStart => .error ⟨.secondDocument, some node.mark, token.mark⟩
    | kind => .error ⟨.documentStart kind, none, token.mark⟩

/-- The only document of a token list; none if there is none. A fault in the order of the tokens
comes before one found where the tokens end. -/
def ofTokens (stop : Fault) (tokens : List Token) : Except Fault (Option Node) := do
  let bound := 4 * tokens.length + 8
  match tokens with
  | [] => throw stop
  | token :: rest =>
    match token.kind with
    | .streamEnd => return none
    | .documentStart =>
      let ends := [.documentStart, .documentEnd, .streamEnd]
      let (node, rest) ← readUnless stop ends true false bound rest
      some <$> readEnd stop node rest
    | _ =>
      let (node, rest) ← read stop true false bound (token :: rest)
      some <$> readEnd stop node rest

end Node

end CodeSurvey.Yaml
