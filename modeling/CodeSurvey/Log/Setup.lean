import CodeSurvey.Log.Record
import CodeSurvey.Tree.Disk

set_option autoImplicit false

namespace CodeSurvey.Log

/-- The name above all loggers. -/
def root : String := "crossfile"

/-- A receiver of records from a level on. -/
inductive Handler where
  | console (level : Level)
  | file (path : String) (level : Level)
  deriving DecidableEq

namespace Handler

def level : Handler → Level
  | .console level => level
  | .file _ level => level

def isConsole : Handler → Bool
  | .console _ => true
  | .file .. => false

end Handler

/-- The state of logging: whether it is set up, its level, its handlers, the loggers asked for, and
the log files with their texts. -/
structure Setup where
  initialized : Bool
  level : Level
  handlers : List Handler
  loggers : List String
  files : List (String × String)

namespace Setup

def fresh : Setup :=
  ⟨false, .unset, [], [], []⟩

/-- Appends to a log file, which is made if it is missing. -/
def appendTo : List (String × String) → String → String → List (String × String)
  | [], path, text => [(path, text)]
  | (name, old) :: rest, path, text =>
    if name = path then (name, old ++ text) :: rest else (name, old) :: appendTo rest path text

/-- Why a log file cannot be opened where those of `files` are. The directories on its way are
made. -/
def openFault? (files : List (String × String)) (path : String) : Option PathFault :=
  let root := files.foldl (fun tree (name, text) =>
    Tree.insert (.file (Tree.octetsOf text)) (Tree.segments name) tree) (.directory [])
  let file := DiskPath.ofText path
  match (Disk.makeDirectory ⟨root, []⟩ file.parent).bind (·.writeFile file "") with
  | .ok _ => none
  | .error fault => some fault.cause

/-- Attaches the handlers, or gives the fault at the log file. `blocked` tells why a log file cannot
be opened. -/
def attach (blocked : String → Option PathFault) (level : Level) (file : Option String)
    (s : Setup) : Option PathFault × Setup :=
  let s := { s with level, handlers := s.handlers ++ [.console level] }
  match file with
  | none => (none, { s with initialized := true })
  | some path =>
    match blocked path with
    -- The console handler stays, but logging does not count as set up.
    | some fault => (some fault, s)
    | none =>
      (none, { s with
        initialized := true
        handlers := s.handlers ++ [.file path level]
        files := appendTo s.files path "" })

/-- Sets logging up, unless it is set up and nothing is forced; gives the fault at the log file if
there is one. -/
def setup (blocked : String → Option PathFault) (level : Level) (file : Option String)
    (force : Bool) (s : Setup) : Option PathFault × Setup :=
  if s.initialized ∧ !force then (none, s)
  else attach blocked level file (if force then { s with handlers := [] } else s)

def fullName (name : String) : String :=
  if name = root ∨ (root ++ ".").toList.isPrefixOf name.toList then name else root ++ "." ++ name

/-- Asks for a logger. The first use sets up a console handler. -/
def get (name : String) (s : Setup) : Setup :=
  let s := if s.initialized then s else (s.setup (fun _ => none) .warning none false).2
  let name := fullName name
  if s.loggers.contains name then s else { s with loggers := s.loggers ++ [name] }

/-- The level from which on records count; without one it is that of warnings. -/
def threshold (s : Setup) : Level :=
  if s.level = .unset then .warning else s.level

/-- Hands a line to the handlers; gives what reaches the console. -/
def deliver (level : Level) (line : String) : List Handler → Setup → String × Setup
  | [], s => ("", s)
  | handler :: rest, s =>
    if level.rank < handler.level.rank then deliver level line rest s
    else
      match handler with
      | .console _ =>
        let (text, s) := deliver level line rest s
        (line ++ text, s)
      | .file path _ => deliver level line rest { s with files := appendTo s.files path line }

/-- Logs a record at a time; gives what reaches the console. Records without a level, or with one
below that, are never logged. -/
def emit (time : String) (record : Record) (s : Setup) : String × Setup :=
  if record.level.rank ≤ Level.unset.rank ∨ record.level.rank < s.threshold.rank then ("", s)
  else deliver record.level (record.line time) s.handlers s

def emitAll (time : String) : List Record → Setup → String × Setup
  | [], s => ("", s)
  | record :: rest, s =>
    let (first, s) := s.emit time record
    let (more, s) := emitAll time rest s
    (first ++ more, s)

end Setup

end CodeSurvey.Log
