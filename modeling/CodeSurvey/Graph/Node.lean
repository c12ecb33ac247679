import CodeSurvey.Resolution
import CodeSurvey.Source.Declarations
import CodeSurvey.Source.File

set_option autoImplicit false

namespace CodeSurvey

/-- A file in the dependency graph: what it imports and exports, the files its imports resolve to,
the specifiers that do not resolve, and the files that depend on it. -/
structure FileNode where
  path : String
  imports : List String
  exports : List String
  dependencies : List String
  dependents : List String
  missing : List String
  deriving DecidableEq, Inhabited

namespace FileNode

/-- Records what one specifier means. A target is listed once. -/
def link (node : FileNode) (specifier : String) : Resolution → FileNode
  | .resolved path =>
    if node.dependencies.contains path then node
    else { node with dependencies := node.dependencies ++ [path] }
  | .unresolved => { node with missing := node.missing ++ [specifier] }
  | .external => node

/-- The node of a file among the paths of a project; nothing depends on it yet. -/
def ofFile (paths : List String) (file : SourceFile) : FileNode :=
  let imports := Source.imports file.family file.content.toList
  let bare : FileNode :=
    ⟨file.path, imports, Source.exports file.family file.content.toList, [], [], []⟩
  imports.foldl
    (fun node specifier =>
      node.link specifier (Resolution.resolve file.family specifier file.path paths))
    bare

def addDependent (node : FileNode) (path : String) : FileNode :=
  if node.dependents.contains path then node
  else { node with dependents := node.dependents ++ [path] }

end FileNode

/-- Nodes by path: one node a path, in the order in which the paths first came. -/
abbrev NodeMap := List FileNode

namespace NodeMap

/-- Puts a node in the place of the one with its path, or at the end. -/
def insert : NodeMap → FileNode → NodeMap
  | [], node => [node]
  | first :: rest, node =>
    if first.path = node.path then node :: rest else first :: insert rest node

/-- The nodes of a list; a later node replaces an earlier one of its path. -/
def ofList (nodes : List FileNode) : NodeMap :=
  nodes.foldl insert []

def get? (nodes : NodeMap) (path : String) : Option FileNode :=
  nodes.find? (·.path == path)

/-- What a path depends on; an unknown path depends on nothing. -/
def dependenciesOf (nodes : NodeMap) (path : String) : List String :=
  ((nodes.get? path).map (·.dependencies)).getD []

def noteDependent (nodes : NodeMap) (path target : String) : NodeMap :=
  nodes.map fun node => if node.path = target then node.addDependent path else node

/-- Every dependency as a pair, in the order of the nodes; repeats are kept. -/
def edges (nodes : NodeMap) : List (String × String) :=
  nodes.flatMap fun node => node.dependencies.map fun target => (node.path, target)

def withDependents (nodes : NodeMap) : NodeMap :=
  nodes.edges.foldl (fun found (path, target) => found.noteDependent path target) nodes

/-- The nodes of files: each file by itself first, then the back references. -/
def build (files : List SourceFile) : NodeMap :=
  let paths := files.map (·.path)
  (ofList (files.map (FileNode.ofFile paths))).withDependents

end NodeMap

end CodeSurvey
