set_option autoImplicit false

namespace CodeSurvey.Log

/-- How grave a record is, as a number; some numbers have a name. -/
structure Level where
  rank : Int
  deriving DecidableEq, Repr

namespace Level

def unset : Level := ⟨0⟩

def debug : Level := ⟨10⟩

def info : Level := ⟨20⟩

def warning : Level := ⟨30⟩

def error : Level := ⟨40⟩

def critical : Level := ⟨50⟩

/-- The levels that have a name, least grave first. -/
def named : List (Level × String) :=
  [(unset, "NOTSET"), (debug, "DEBUG"), (info, "INFO"), (warning, "WARNING"), (error, "ERROR"),
   (critical, "CRITICAL")]

def name (level : Level) : String :=
  ((named.find? (·.1 == level)).map (·.2)).getD s!"Level {level.rank}"

/-- The level of a name; two levels have a second name. -/
def ofName? (name : String) : Option Level :=
  if name = "WARN" then some warning
  else if name = "FATAL" then some critical
  else (named.find? (·.2 == name)).map (·.1)

end Level

structure Record where
  level : Level
  logger : String
  message : String

def padded (width : Nat) (text : String) : String :=
  text ++ String.ofList (List.replicate (width - text.length) ' ')

def Record.line (time : String) (record : Record) : String :=
  " | ".intercalate [time, padded 8 record.level.name, record.logger, record.message] ++ "\n"

end CodeSurvey.Log
