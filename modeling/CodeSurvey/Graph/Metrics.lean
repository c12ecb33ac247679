import CodeSurvey.Cap
import CodeSurvey.Graph.Node
import CodeSurvey.Value.Json

set_option autoImplicit false

namespace CodeSurvey

/-- A simple directed graph: vertices in order, and each vertex with its targets in order. -/
structure Digraph where
  vertices : List String
  edges : List (String × String)

structure Metrics where
  fanIn : List (String × Nat)
  fanOut : List (String × Nat)
  topFanIn : List (String × Nat)
  topFanOut : List (String × Nat)

namespace NodeMap

/-- The simple graph of nodes. Targets that are no nodes come after the nodes; edges are grouped by
their source. -/
def toDigraph (nodes : NodeMap) : Digraph :=
  let all := nodes.edges
  let vertices := ((nodes.map (·.path)) ++ all.map (·.2)).eraseDups
  ⟨vertices, vertices.flatMap fun source => (all.filter fun edge => edge.1 == source).eraseDups⟩

end NodeMap

namespace Digraph

def fanIn (g : Digraph) : List (String × Nat) :=
  g.vertices.map fun v => (v, g.edges.countP fun edge => edge.2 == v)

def fanOut (g : Digraph) : List (String × Nat) :=
  g.vertices.map fun v => (v, g.edges.countP fun edge => edge.1 == v)

/-- The largest counts first, equal ones in order, cut to a limit. -/
def top (limit : Int) (counts : List (String × Nat)) : List (String × Nat) :=
  capped limit (counts.mergeSort fun a b => decide (b.2 ≤ a.2))

def metrics (g : Digraph) (limit : Int) : Metrics :=
  ⟨g.fanIn, g.fanOut, top limit g.fanIn, top limit g.fanOut⟩

/-- The graph as a document. A vertex that is a node tells how many names it exports and how many
specifiers it misses. -/
def toValue (g : Digraph) (nodes : NodeMap) : Value :=
  let vertex (path : String) : Value :=
    .object <| ("id", .text path) ::
      (nodes.get? path).elim [] fun node =>
        [("exports", .nat node.exports.length), ("missing", .nat node.missing.length)]
  let edge (e : String × String) : Value :=
    .object [("source", .text e.1), ("target", .text e.2)]
  .object [("nodes", .list (g.vertices.map vertex)), ("edges", .list (g.edges.map edge))]

end Digraph

def NodeMap.graphDocument (nodes : NodeMap) : String :=
  (nodes.toDigraph.toValue nodes).toJsonDocument

end CodeSurvey
