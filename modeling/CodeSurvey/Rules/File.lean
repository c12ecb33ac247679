import CodeSurvey.Rules.Basic
import CodeSurvey.Yaml.Document
import CodeSurvey.Yaml.Writer

set_option autoImplicit false

namespace CodeSurvey.Rules

/-- The place of the rules file when none is named. -/
def defaultPath : String := "presets/rules.yaml"

/-- Why a text has no value in a format: it is malformed, in the words of the format, or a part of
it has the form of a value that does not exist. -/
inductive ReadFault (ε : Type) where
  | malformed (message : String)
  | value (fault : ε)

structure Format (ε : Type) where
  read : List Char → Except (ReadFault ε) Value
  write : Fields → String

/-- Why a rules file is passed over. -/
inductive FileFault where
  | notAnObject
  | unreadable (message : String)

def FileFault.message (path : String) : FileFault → String
  | .notAnObject => s!"Ignoring rules file {path}: top level is not a mapping"
  | .unreadable message => s!"Ignoring unreadable rules file {path}: {message}"

variable {ε : Type}

/-- The rules of a file's text, laid over the default ones. A text that is malformed or holds no
object is passed over, and why is told; a void one means no rules. -/
def ofText (format : Format ε) (text : List Char) : Except ε (Fields × Option FileFault) :=
  match format.read text with
  | .ok (.object fields) => .ok (overlay defaults fields, none)
  | .ok value => .ok (defaults, if value.isVoid then none else some .notAnObject)
  | .error (.value fault) => .error fault
  | .error (.malformed message) => .ok (defaults, some (.unreadable message))

/-- The rules of a file that may be missing. All line breaks count as newlines. -/
def load (format : Format ε) (text : Option String) : Except ε (Fields × Option FileFault) :=
  text.elim (.ok (defaults, none)) fun text => ofText format (Text.unifyBreaks text.toList)

def save (format : Format ε) (rules : Fields) : String :=
  format.write rules

/-- The format of the program's own rules files. A file that uses a form of the language that is not
read, such as an anchor or a block scalar, is passed over as a malformed one is. -/
def yaml : Format Yaml.ValueFault where
  read text := (Yaml.ofText text).mapError fun fault =>
    match fault.cause with
    | .value cause => .value cause
    | _ => .malformed (fault.message text)
  write := Yaml.document

end CodeSurvey.Rules
