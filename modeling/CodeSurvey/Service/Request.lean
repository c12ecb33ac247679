import CodeSurvey.Value.JsonReader

set_option autoImplicit false

namespace CodeSurvey.Service

inductive Body where
  | absent
  /-- A text that is no JSON. -/
  | unreadable (fault : JsonFault)
  | given (value : Value)

/-- The body that a text holds. A byte order mark in front of it does not count. -/
def Body.ofText (text : String) : Body :=
  if text.isEmpty then .absent
  else
    let chars := if text.toList.head? = some '\uFEFF' then text.toList.drop 1 else text.toList
    match Value.ofJson (String.ofList chars) with
    | .ok value => .given value
    | .error fault => .unreadable fault

/-- A request. The case of letters of its method does not count. -/
structure Request where
  method : String
  path : String
  body : Body

inductive ProblemKind where
  | missing
  | notText
  | notAList
  | notAnObject
  /-- A value without the fields that are needed. -/
  | noFields
  | unreadable
  deriving DecidableEq

def ProblemKind.name : ProblemKind → String
  | .missing => "missing"
  | .notText => "string_type"
  | .notAList => "list_type"
  | .notAnObject => "dict_type"
  | .noFields => "model_attributes_type"
  | .unreadable => "json_invalid"

inductive Step where
  | field (name : String)
  | index (n : Nat)
  deriving DecidableEq

/-- A problem and the way to its place, if it has one. -/
structure Problem where
  kind : ProblemKind
  place : Option (List Step)

def Problem.toValue (problem : Problem) : Value :=
  let step : Step → Value
    | .field name => .text name
    | .index n => .nat n
  .object (("type", .text problem.kind.name) ::
    (problem.place.elim [] fun steps => [("loc", .list (steps.map step))]))

/-- A file of a request, with a language that may be left out. -/
structure FileEntry where
  path : String
  content : String
  language : Option String

/-- What a sound body asks for. -/
structure Order where
  files : List FileEntry
  rules : Option Fields

/-- The parts of a body that are sound, or the problems in all of them. -/
abbrev Checked (α : Type) := Except (List Problem) α

/-- Joins two parts: problems of both are told. -/
def both {α β γ : Type} (f : α → β → γ) : Checked α → Checked β → Checked γ
  | .ok a, .ok b => .ok (f a b)
  | .ok _, .error later => .error later
  | .error sooner, .ok _ => .error sooner
  | .error sooner, .error later => .error (sooner ++ later)

def problemAt {α : Type} (kind : ProblemKind) (place : List Step) : Checked α :=
  .error [⟨kind, some place⟩]

def textField (place : List Step) (fields : Fields) (name : String) : Checked String :=
  match Fields.get? fields name with
  | some (.text s) => .ok s
  | some _ => problemAt .notText (place ++ [.field name])
  | none => problemAt .missing (place ++ [.field name])

/-- A field that may be a text, null or missing. -/
def optionalTextField (place : List Step) (fields : Fields) (name : String) :
    Checked (Option String) :=
  match Fields.get? fields name with
  | some (.text s) => .ok (some s)
  | some .null => .ok none
  | some _ => problemAt .notText (place ++ [.field name])
  | none => .ok none

def fileEntry (place : List Step) : Value → Checked FileEntry
  | .object fields =>
    both (fun (path, content) language => ⟨path, content, language⟩)
      (both Prod.mk (textField place fields "path") (textField place fields "content"))
      (optionalTextField place fields "language")
  | _ => problemAt .noFields place

/-- The files of a list, counted from a number on. -/
def fileEntries (n : Nat) : List Value → Checked (List FileEntry)
  | [] => .ok []
  | value :: rest =>
    both List.cons (fileEntry [.field "body", .field "files", .index n] value)
      (fileEntries (n + 1) rest)

def filesField (fields : Fields) : Checked (List FileEntry) :=
  match Fields.get? fields "files" with
  | some (.list items) => fileEntries 0 items
  | some _ => problemAt .notAList [.field "body", .field "files"]
  | none => problemAt .missing [.field "body", .field "files"]

/-- The rules of a body, which may be null or missing. -/
def rulesField (fields : Fields) : Checked (Option Fields) :=
  match Fields.get? fields "rules" with
  | some (.object rules) => .ok (some rules)
  | some .null => .ok none
  | some _ => problemAt .notAnObject [.field "body", .field "rules"]
  | none => .ok none

/-- What a body asks for, or all of its problems in the order of the fields. -/
def Order.ofBody : Body → Checked Order
  | .absent => problemAt .missing [.field "body"]
  | .unreadable _ => .error [⟨.unreadable, none⟩]
  | .given .null => problemAt .missing [.field "body"]
  | .given (.object fields) => both Order.mk (filesField fields) (rulesField fields)
  | .given _ => problemAt .noFields [.field "body"]

end CodeSurvey.Service
