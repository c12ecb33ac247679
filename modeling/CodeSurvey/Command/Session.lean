import CodeSurvey.Log.Setup
import CodeSurvey.Log.Trace
import CodeSurvey.Report.Document
import CodeSurvey.Rules.File
import CodeSurvey.Tree.Disk
import CodeSurvey.Tree.Walk

set_option autoImplicit false

namespace CodeSurvey.Command

open Log

inductive Panel where
  | rule (title : String)
  | print (text : String)
  | table (title : String) (columns : List String) (rows : List (List String))
  | usage

inductive Change where
  | directory (path : DiskPath)
  | file (path : DiskPath) (text : String)

/-- The state of a running command: the disk, the screen, the plain output, messages with log lines
among them, and the changes to the disk in order. -/
structure Session where
  disk : Disk
  logging : Setup
  time : String
  screen : List Panel
  output : String
  messages : String
  changes : List Change

/-- A session before its command: warnings are logged. -/
def Session.start (disk : Disk) (time : String) : Session :=
  ⟨disk, (Setup.fresh.setup (fun _ => none) .warning none false).2, time, [], "", "", []⟩

/-- Why a command fails without a message of its own. -/
inductive Failure where
  | rule (fault : RuleFault)
  | walk (fault : Walk.Fault)
  | document (fault : Document.Fault)
  | disk (fault : DiskFault)
  /-- A text in a rules file that means no value. -/
  | value (fault : Yaml.ValueFault)
  /-- A rules file that is no text. -/
  | encoding (path : String)

def Failure.message : Failure → String
  | .rule fault => fault.message
  | .walk fault => fault.message
  | .document fault => fault.message
  | .disk fault => fault.message
  | .value fault => fault.message
  | .encoding path => s!"{path} is not UTF-8"

/-- How a command ends before its end. -/
inductive Stop where
  | exit (code : Nat)
  | failure (cause : Failure)

/-- The steps of a command: they change the session and may stop. -/
abbrev Run := ExceptT Stop (StateM Session)

namespace Run

def put (panel : Panel) : Run Unit :=
  modify fun s => { s with screen := s.screen ++ [panel] }

def say (line : String) : Run Unit :=
  modify fun s => { s with output := s.output ++ line ++ "\n" }

def complain (line : String) : Run Unit :=
  modify fun s => { s with messages := s.messages ++ line ++ "\n" }

def exit {α : Type} (code : Nat) : Run α :=
  throw (.exit code)

def fail {α : Type} (cause : Failure) : Run α :=
  throw (.failure cause)

def log (records : List Record) : Run Unit :=
  modify fun s =>
    let (text, logging) := s.logging.emitAll s.time records
    { s with logging, messages := s.messages ++ text }

/-- Runs a computation that logs; gives its outcome. -/
def logged {ε α : Type} (trace : Trace ε α) : Run (Except ε α) := do
  log trace.records
  return trace.outcome

def makeDirectory (path : DiskPath) : Run (Except DiskFault Unit) := do
  match (← get).disk.makeDirectory path with
  | .error fault => return .error fault
  | .ok disk =>
    modify fun s => { s with disk, changes := s.changes ++ [.directory path] }
    return .ok ()

def writeFile (path : DiskPath) (text : String) : Run (Except DiskFault Unit) := do
  match (← get).disk.writeFile path text with
  | .error fault => return .error fault
  | .ok disk =>
    modify fun s => { s with disk, changes := s.changes ++ [.file path text] }
    return .ok ()

end Run

end CodeSurvey.Command
