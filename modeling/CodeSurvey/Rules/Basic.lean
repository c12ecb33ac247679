import CodeSurvey.Budget
import CodeSurvey.Value.Number

set_option autoImplicit false

namespace CodeSurvey.Rules

def defaults : Fields :=
  [("complexity", .object [("warn_at", .int 10), ("error_at", .int 20)]),
   ("duplication", .object [("window", .int 5), ("min_chars", .int 50),
     ("similarity_threshold", .float 0.8)]),
   ("budget", .object [("max_files", .int 5000), ("max_windows_per_file", .int 2000),
     ("max_comparisons", .int 5000000), ("max_duplicates", .int 500),
     ("time_budget_s", .float 30)]),
   ("digest", .object [("max_duplicates", .int 5), ("max_dead_code", .int 10),
     ("max_redundant", .int 10), ("max_complexity", .int 5)])]

mutual

/-- The value of a field after another value is laid over it: objects are laid over each other, any
other value replaces the old one. -/
def overlayValue (old : Option Value) : Value → Value
  | .object fields =>
    match old with
    | some (.object base) => .object (overlay base fields)
    | _ => .object fields
  | .null => .null
  | .bool b => .bool b
  | .int n => .int n
  | .float x => .float x
  | .text s => .text s
  | .date s timed => .date s timed
  | .list items => .list items

/-- Lays fields over others. Fields keep their places, new ones come last. -/
def overlay (base : Fields) : Fields → Fields
  | [] => base
  | (key, value) :: rest =>
    overlay (base.put key (overlayValue (base.get? key) value)) rest

end

/-- Lays a value over fields. A void value changes nothing. Objects may be nested to any depth:
there is no limit such as `Yaml.maxDepth`. -/
def merge (base : Fields) (given : Value) : Except RuleFault Fields :=
  match given with
  | .object fields => .ok (overlay base fields)
  | other => if other.isVoid then .ok base else .error (.noRules other.typeName)

/-- The fields of a value; a void value has none. -/
def fieldsOf (value : Value) : Except RuleFault Fields :=
  match value with
  | .object fields => .ok fields
  | other => if other.isVoid then .ok [] else .error (.noSection other.typeName)

/-- A value of a section of rules; null counts as not given. -/
def setting? (rules : Value) (group key : String) : Except RuleFault (Option Value) := do
  let sections ← fieldsOf rules
  let fields ← fieldsOf ((Fields.get? sections group).getD .null)
  match Fields.get? fields key with
  | some .null => return none
  | found => return found

def integer (rules : Value) (group key : String) (default : Int) : Except RuleFault Int := do
  match ← setting? rules group key with
  | some value => value.toInteger
  | none => return default

def number (rules : Value) (group key : String) (default : Float) : Except RuleFault Float := do
  match ← setting? rules group key with
  | some value => value.toNumber
  | none => return default

/-- The complexity above which a function is reported. -/
def warnAt (rules : Value) : Except RuleFault Int :=
  integer rules "complexity" "warn_at" 10

/-- The complexity from which on a function is an error. -/
def errorAt (rules : Value) : Except RuleFault Int :=
  integer rules "complexity" "error_at" 20

def window (rules : Value) : Except RuleFault Int :=
  integer rules "duplication" "window" 5

/-- The least length of the text of a window. -/
def minChars (rules : Value) : Except RuleFault Int :=
  integer rules "duplication" "min_chars" 50

/-- The similarity above which windows are duplicates. -/
def threshold (rules : Value) : Except RuleFault Float :=
  number rules "duplication" "similarity_threshold" 0.8

/-- The fields of the budget. Unlike the other sections it has to be an object where it is given,
and rules that are no object have none. -/
def budgetFields (rules : Value) : Except RuleFault Fields :=
  match rules with
  | .object sections =>
    match Fields.get? sections "budget" with
    | none => .ok []
    | some (.object fields) => .ok fields
    | some other => .error (.noSection other.typeName)
  | _ => .ok []

/-- The budget of rules. A limit that is given has to be a number. -/
def budget (rules : Value) : Except RuleFault Budget := do
  let fields ← budgetFields rules
  let limit (key : String) (default : Int) : Except RuleFault Int :=
    (Fields.get? fields key).elim (.ok default) Value.toInteger
  let maxFiles ← limit "max_files" 5000
  let maxWindows ← limit "max_windows_per_file" 2000
  let maxComparisons ← limit "max_comparisons" 5000000
  let maxDuplicates ← limit "max_duplicates" 500
  let time ← (Fields.get? fields "time_budget_s").elim (.ok 30) Value.toNumber
  return ⟨maxFiles, maxWindows, maxComparisons, maxDuplicates, .real time⟩

end CodeSurvey.Rules
