import CodeSurvey.Tree.Basic
import CodeSurvey.Value.Literal

set_option autoImplicit false

namespace CodeSurvey

/-- A path on a disk, from the root or from the working directory. -/
structure DiskPath where
  absolute : Bool
  segments : List String
  deriving DecidableEq

namespace DiskPath

def ofText (text : String) : DiskPath :=
  ⟨text.toList.head? == some '/', Tree.segments text⟩

/-- The text of a path, without empty segments and single dots. -/
def text (path : DiskPath) : String :=
  if path.segments.isEmpty then (if path.absolute then "/" else ".")
  else (if path.absolute then "/" else "") ++ "/".intercalate path.segments

def parent (path : DiskPath) : DiskPath :=
  { path with segments := path.segments.dropLast }

def child (path : DiskPath) (name : String) : DiskPath :=
  { path with segments := path.segments ++ [name] }

end DiskPath

structure DiskFault where
  cause : PathFault
  path : DiskPath

def DiskFault.message (fault : DiskFault) : String :=
  let cause := match fault.cause with
    | .missing => "[Errno 2] No such file or directory"
    | .exists => "[Errno 17] File exists"
    | .notADirectory => "[Errno 20] Not a directory"
    | .isADirectory => "[Errno 21] Is a directory"
  cause ++ ": " ++ Literal.quote fault.path.text

/-- A tree and the way from its root to the working directory. -/
structure Disk where
  root : Tree
  home : List String

namespace Disk

def fromRoot (disk : Disk) (path : DiskPath) : List String :=
  if path.absolute then path.segments else disk.home ++ path.segments

/-- Segments without double dots: each takes back the segment before it. -/
def settled (segments : List String) : List String :=
  (segments.foldl (fun stack s => if s = ".." then stack.drop 1 else s :: stack) []).reverse

def locate (disk : Disk) (path : DiskPath) : Except PathFault Tree :=
  disk.root.locate (disk.fromRoot path)

def find? (disk : Disk) (path : DiskPath) : Option Tree :=
  disk.root.find? (disk.fromRoot path)

/-- The text of a path from the root on, without double dots. -/
def resolved (disk : Disk) (path : DiskPath) : String :=
  DiskPath.text ⟨true, settled (disk.fromRoot path)⟩

/-- Puts an entry at a path whose directory is there. -/
def place (disk : Disk) (path : DiskPath) (entry : Tree) : Disk :=
  { disk with root := Tree.insert entry (settled (disk.fromRoot path)) disk.root }

/-- Makes a single directory. One that is there stays. -/
def ensure (disk : Disk) (path : DiskPath) : Except DiskFault Disk :=
  match disk.locate path with
  | .ok (.directory _) => .ok disk
  | .ok _ => .error ⟨.exists, path⟩
  | .error .missing => .ok (disk.place path (.directory []))
  | .error cause => .error ⟨cause, path⟩

def ensureBelow (disk : Disk) (path : DiskPath) : List String → Except DiskFault Disk
  | [] => .ok disk
  | name :: rest => do
    let disk ← disk.ensure (path.child name)
    ensureBelow disk (path.child name) rest

/-- Makes a directory and those above it that are missing. -/
def makeDirectory (disk : Disk) (path : DiskPath) : Except DiskFault Disk :=
  match disk.locate path with
  -- A file on the way is a fault at the whole path, not at the file.
  | .error .notADirectory => .error ⟨.notADirectory, path⟩
  | _ => disk.ensureBelow ⟨path.absolute, []⟩ path.segments

/-- Writes a file into a directory that is there. -/
def writeFile (disk : Disk) (path : DiskPath) (text : String) : Except DiskFault Disk :=
  let written := disk.place path (.file (Tree.octetsOf text))
  match disk.locate path with
  | .ok (.directory _) => .error ⟨.isADirectory, path⟩
  | .ok _ => .ok written
  | .error .missing =>
    match disk.locate path.parent with
    | .ok (.directory _) => .ok written
    | _ => .error ⟨.missing, path⟩
  | .error cause => .error ⟨cause, path⟩

end Disk

end CodeSurvey
