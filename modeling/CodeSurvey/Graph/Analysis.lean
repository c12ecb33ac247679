import CodeSurvey.Graph.Cycle
import CodeSurvey.Graph.Entry
import CodeSurvey.Severity

set_option autoImplicit false

namespace CodeSurvey

/-- A specifier that does not resolve, and the file it stands in. -/
structure MissingDependency where
  file : String
  specifier : String
  deriving DecidableEq

structure DependencyGraph where
  nodes : NodeMap
  cycles : List (List String)
  missing : List MissingDependency
  unused : List String

structure DependencyIssue where
  category : Category
  severity : Severity
  message : String
  files : List String

namespace NodeMap

def missing (nodes : NodeMap) : List MissingDependency :=
  nodes.flatMap fun node => node.missing.map fun specifier => ⟨node.path, specifier⟩

/-- The files that nothing depends on and that are no entry points. -/
def unused (nodes : NodeMap) : List String :=
  (nodes.filter fun node => node.dependents.isEmpty && !Entry.isEntryPoint node.path).map (·.path)

def analyze (nodes : NodeMap) : DependencyGraph :=
  ⟨nodes, nodes.cycles, nodes.missing, nodes.unused⟩

end NodeMap

namespace DependencyGraph

def ofFiles (files : List SourceFile) : DependencyGraph :=
  (NodeMap.build files).analyze

/-- The issues of a graph: cycles first, then missing files, then unused ones. -/
def issues (graph : DependencyGraph) : List DependencyIssue :=
  (graph.cycles.map fun cycle =>
    ⟨.circular, .error, "Circular dependency detected: " ++ " -> ".intercalate cycle, cycle⟩) ++
  (graph.missing.map fun m =>
    ⟨.missing, .error, s!"Missing dependency \"{m.specifier}\" in {m.file}", [m.file]⟩) ++
  (graph.unused.map fun path =>
    ⟨.unused, .warning, s!"File \"{path}\" is not imported by any other file", [path]⟩)

/-- Files that count as entry points: by name, or because nothing depends on them. -/
def entryPoints (graph : DependencyGraph) : List String :=
  (graph.nodes.filter fun node => node.dependents.isEmpty || Entry.isDigestEntry node.path).map
    (·.path)

end DependencyGraph

end CodeSurvey
