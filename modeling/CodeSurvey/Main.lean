import CodeSurvey.Command.Run
import CodeSurvey.Command.Screen
import Std.Time

set_option autoImplicit false

namespace CodeSurvey.Main

open Command

def rootedText (segments : List String) : String :=
  DiskPath.text ⟨true, segments⟩

def readOctets (path : String) : IO (List Nat) := do
  return (← IO.FS.readBinFile path).toList.map (·.toNat)

/-- The entries of a directory. Links to directories are not followed, and below directories that
are never entered nothing is read. -/
partial def readEntries (directory : String) : IO (List (String × Tree)) := do
  let found ← ((← IO.currentDir) / directory).readDir
  found.toList.mapM fun entry => do
    let path := directory ++ "/" ++ entry.fileName
    let own := (← entry.path.symlinkMetadata).type
    if own == .dir then
      if Walk.hardExcluded.contains entry.fileName then return (entry.fileName, .directory [])
      return (entry.fileName, .directory (← readEntries path))
    if !(← entry.path.pathExists) then return (entry.fileName, .dangling)
    if ← entry.path.isDir then return (entry.fileName, .directory [])
    return (entry.fileName, .file (← readOctets path))

/-- Adds to a tree what the disk has on the way along segments and at its end. With `whole` a
directory at the end is read with all that is below it. -/
def mount (whole : Bool) (segments : List String) (root : Tree) : IO Tree := do
  let mut root := root
  for n in List.range (segments.length + 1) do
    let way := segments.take n
    let place := (← IO.currentDir) / rootedText way
    if !(← place.pathExists) then break
    if ← place.isDir then
      if whole && n == segments.length then
        root := Tree.insert (.directory (← readEntries (rootedText way))) way root
      else if (root.find? way).isNone then
        root := Tree.insert (.directory []) way root
    else
      root := Tree.insert (.file (← readOctets (rootedText way))) way root
      break
  return root

/-- The paths that a command looks at: those whose end is enough, and the folder that it walks. -/
def pathsOf : Command → List DiskPath × Option DiskPath
  | .analyze options =>
    let output := DiskPath.ofText options.outputDir
    ([.ofText options.rulesFile, output.child "report.md", output.child "report.json",
      output.child "dep-graph.json"], some (.ofText options.files.folder))
  | .graph options => ([], some (.ofText options.folder))
  | .initRules output _ => ([.ofText output], none)
  | .help => ([], none)

def readDisk (arguments : List String) : IO Disk := do
  let home := Tree.segments (← IO.currentDir).toString
  let mut root ← mount false home (.directory [])
  match Command.ofArguments arguments with
  | .error _ => return ⟨root, home⟩
  | .ok command =>
    let (ends, folder) := pathsOf command
    let steps (path : DiskPath) := Disk.settled (Disk.fromRoot ⟨root, home⟩ path)
    let ends := ends.map steps
    let folder := folder.map steps
    for path in folder.toList do
      root ← mount true path root
    for path in ends do
      root ← mount false path root
    return ⟨root, home⟩

def apply (disk : Disk) : Change → IO Unit
  | .directory path => IO.FS.createDirAll (disk.resolved path)
  | .file path text => IO.FS.writeFile (disk.resolved path) text

def endingLines : Ending → List String
  | .exit _ => []
  | .usage fault => ["Error: " ++ fault.message]
  | .failure cause => ["Error: " ++ cause.message]

end CodeSurvey.Main

open CodeSurvey CodeSurvey.Main in
/-- Reads the part of the disk that a command needs, runs it, shows what it has to show and makes
its changes. -/
def main (arguments : List String) : IO UInt32 := do
  let disk ← readDisk arguments
  let time := (← Std.Time.PlainDateTime.now).format "uuuu-MM-dd HH:mm:ss"
  let (ending, session) :=
    Command.runLine .double .double (fun _ => 0) arguments (.start disk time)
  for panel in session.screen do
    panel.lines.forM IO.println
  IO.print session.output
  IO.eprint session.messages
  (endingLines ending).forM IO.eprintln
  session.changes.forM (apply session.disk)
  return ending.code.toUInt32
