import CodeSurvey.Log.Trace
import CodeSurvey.Source.File
import CodeSurvey.Text.Lowercase
import CodeSurvey.Text.Utf8
import CodeSurvey.Tree.Disk
import CodeSurvey.Tree.Ignore

set_option autoImplicit false

namespace CodeSurvey.Walk

open Text Log

def defaultInclude : List String :=
  ["**/*.js", "**/*.jsx", "**/*.mjs", "**/*.cjs", "**/*.ts", "**/*.tsx", "**/*.py", "**/*.java",
   "**/*.php"]

def defaultExclude : List String :=
  ["**/*.min.js", "**/*.d.ts"]

def hardExcluded : List String :=
  [".git", ".hg", ".svn", ".venv", "venv", "env", "__pycache__", "node_modules", "vendor", "dist",
   "build", ".next", ".turbo", ".idea", ".vscode", ".cache", ".pytest_cache"]

/-- The largest file in octets when nothing else is said. -/
def defaultMaxBytes : Int := 2000000

/-- What is left out: by the path of a file, or of a directory with a slash at its end; by size. -/
structure Filter where
  ignored : String → Bool
  wanted : String → Bool
  maxBytes : Int

inductive Fault where
  | ignoreFile (fault : PathFault)
  | pattern (fault : Ignore.Fault)
  | input (fault : InputFault)

def Fault.message : Fault → String
  | .ignoreFile cause => DiskFault.message ⟨cause, .ofText ".gitignore"⟩
  | .pattern fault => fault.message
  | .input fault => fault.message

def join (directory name : String) : String :=
  if directory.isEmpty then name else directory ++ "/" ++ name

/-- The last segment of a path, passing over empty ones and single dots. -/
def nameOf (path : String) : List Char :=
  (((splitAt '/' path.toList).filter fun s => s != [] && s != ['.']).getLast?).getD []

/-- The language tag of a path: what follows the last dot of its name, in small letters. A dot at
the beginning or at the end of a name does not count. -/
def languageTag (path : String) : String :=
  match splitLast? '.' (nameOf path) with
  | some (before, after) =>
    if before.isEmpty ∨ after.isEmpty then ""
    else String.ofList (lower after)
  | none => ""

/-- Directories of tools and ignored ones are not entered. -/
def Filter.enters (filter : Filter) (name path : String) : Bool :=
  !(hardExcluded.contains name || filter.ignored (path ++ "/"))

/-- The files and links of a directory itself. -/
def ownLeaves (directory : String) (entries : List (String × Tree)) : List (String × Tree) :=
  (entries.filter fun (_, tree) => !tree.isDirectory).map fun (name, tree) =>
    (join directory name, tree)

mutual

/-- The files and links below a directory with their paths: its own first, then those of the
directories in it. -/
def leaves (filter : Filter) (path : String) : Tree → List (String × Tree)
  | .directory entries => ownLeaves path entries ++ deepLeaves filter path entries
  | .file _ => []
  | .dangling => []

def deepLeaves (filter : Filter) (path : String) : List (String × Tree) → List (String × Tree)
  | [] => []
  | (name, tree) :: rest =>
    (if filter.enters name (join path name) then leaves filter (join path name) tree else []) ++
      deepLeaves filter path rest

end

/-- The text of a file: its characters, with all line breaks as newlines. -/
def textOf (octets : List Nat) : String :=
  String.ofList (unifyBreaks (decodeLossy octets))

def logger : String := "crossfile.ingestion.walker"

def load (filter : Filter) : List (String × Tree) → Trace Fault (List SourceFile)
  | [] => pure []
  | (path, .file octets) :: rest => do
    if filter.ignored path || !filter.wanted path then load filter rest
    else if filter.maxBytes < octets.length then
      Trace.note .info logger s!"Skipping {path}: {octets.length} bytes exceeds {filter.maxBytes}"
      load filter rest
    else
      let file ← Trace.ofExcept
        ((SourceFile.make path (textOf octets) (languageTag path)).mapError .input)
      return file :: (← load filter rest)
  | _ :: rest => load filter rest

def sorted (files : List SourceFile) : List SourceFile :=
  files.mergeSort fun a b => decide (a.path ≤ b.path)

/-- The source files below a tree, in the order of their paths. -/
def files (filter : Filter) (tree : Tree) : Trace Fault (List SourceFile) := do
  return sorted (← load filter (leaves filter "" tree))

def ignoreLines (tree : Tree) : Except Fault (List (List Char)) :=
  match Tree.child? tree.entries ".gitignore" with
  | some (.file octets) => .ok (listLines (unifyBreaks (decodeLossy octets)))
  | some (.directory _) => .error (.ignoreFile .isADirectory)
  | _ => .ok []

/-- The filter of an ignore file and of patterns; an empty list of patterns means the default
ones. -/
def filterOf (tree : Tree) (wanted unwanted : List String) (maxBytes : Int) :
    Except Fault Filter := do
  let orElse (given default : List String) : List (List Char) :=
    (if given.isEmpty then default else given).map (·.toList)
  let lines ← ignoreLines tree
  -- The last rule that matches decides, so exclusions win over what the ignore file keeps.
  let ignored ← (Ignore.rules (lines ++ orElse unwanted defaultExclude)).mapError .pattern
  let kept ← (Ignore.rules (orElse wanted defaultInclude)).mapError .pattern
  return ⟨Ignore.isMatch ignored, Ignore.isMatch kept, maxBytes⟩

/-- The source files below a directory that may be missing; `shown` is its name in the log. -/
def run (tree : Option Tree) (shown : String) (wanted unwanted : List String) (maxBytes : Int) :
    Trace Fault (List SourceFile) := do
  let tree := tree.getD (.directory [])
  let filter ← Trace.ofExcept (filterOf tree wanted unwanted maxBytes)
  let found ← files filter tree
  Trace.note .debug logger s!"Walked {shown}: {found.length} files"
  return found

end CodeSurvey.Walk
