import CodeSurvey.Language.Family
import CodeSurvey.Text.Lines
import CodeSurvey.Value.Literal

set_option autoImplicit false

namespace CodeSurvey

/-- A file with its path from the project's root and its language tag, which may be empty. -/
structure SourceFile where
  path : String
  content : String
  language : String
  deriving DecidableEq, Inhabited

/-- Why a value is no collection of files. -/
inductive InputFault where
  | notACollection (typeName : String)
  /-- An item has no fields. -/
  | notAFile (typeName : String)
  /-- A path is no text or blank. -/
  | badPath (path : Value)
  | badContent (path : String) (typeName : String)
  | badLanguage (path : String) (typeName : String)
  | repeatedPath (path : String)

def InputFault.message : InputFault → String
  | .notACollection type => s!"expected a collection of files, got {type}"
  | .notAFile type => s!"expected a SourceFile or a mapping, got {type}"
  | .badPath path => "file path must be a non-empty string, got " ++ path.literal
  | .badContent path type => s!"content of {Literal.quote path} must be a string, got {type}"
  | .badLanguage path type => s!"language of {Literal.quote path} must be a string, got {type}"
  | .repeatedPath path => "duplicate file path " ++ Literal.quote path

namespace SourceFile

def forwardSlashes (path : String) : String :=
  String.ofList (path.toList.map fun c => if c = '\\' then '/' else c)

/-- The file with a path, unless the path is blank. -/
def make (path content language : String) : Except InputFault SourceFile :=
  if Text.isBlankText path.toList then .error (.badPath (.text path))
  else .ok ⟨forwardSlashes path, content, language⟩

/-- The file that three values describe. A path is looked at first, then the content, then the
language, which may be missing. -/
def ofFields (path content language : Value) : Except InputFault SourceFile :=
  match path with
  | .text name =>
    if Text.isBlankText name.toList then .error (.badPath path)
    else
      match content, language with
      | .text body, .text tag => make name body tag
      | .text body, .null => make name body ""
      | .text _, other => .error (.badLanguage name other.typeName)
      | other, _ => .error (.badContent name other.typeName)
  | _ => .error (.badPath path)

def ofValue : Value → Except InputFault SourceFile
  | .object fields =>
    let field key := (Fields.get? fields key).getD .null
    ofFields (field "path") (field "content") (field "language")
  | other => .error (.notAFile other.typeName)

def family (file : SourceFile) : Option Family :=
  Family.ofTag? file.language

def lines (file : SourceFile) : List (List Char) :=
  Text.lines file.content.toList

/-- Files one after another; the first that cannot be read or repeats a path stops. `seen` holds the
paths before. -/
def collect (seen : List String) : List (Except InputFault SourceFile) →
    Except InputFault (List SourceFile)
  | [] => .ok []
  | .error fault :: _ => .error fault
  | .ok file :: rest =>
    if seen.contains file.path then .error (.repeatedPath file.path)
    else (collect (file.path :: seen) rest).map (file :: ·)

/-- The files of a collection given as a value. Iterating an object gives its names. -/
def collectValue : Value → Except InputFault (List SourceFile)
  | .list items => collect [] (items.map ofValue)
  | .object fields => collect [] (fields.map fun (name, _) => ofValue (.text name))
  | other => .error (.notACollection other.typeName)

end SourceFile

end CodeSurvey
