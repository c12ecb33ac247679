import CodeSurvey.Graph.Node

set_option autoImplicit false

namespace CodeSurvey

/-- The state of one depth-first search over all nodes. A dependency on a file of the way closes a
cycle. -/
structure CycleSearch where
  visited : List String
  /-- Files on the way from the start to the current file. -/
  onStack : List String
  /-- The way itself, in order. -/
  trail : List String
  /-- The files of the way with the dependencies still to look at, the current file first. -/
  stack : List (String × List String)
  /-- The texts of the cycles reported so far. -/
  reported : List String
  cycles : List (List String)

namespace CycleSearch

def fresh : CycleSearch :=
  ⟨[], [], [], [], [], []⟩

/-- Moves on to a file that has not been reached before. -/
def enter (nodes : NodeMap) (s : CycleSearch) (path : String) : CycleSearch :=
  { s with
    visited := path :: s.visited
    onStack := path :: s.onStack
    trail := s.trail ++ [path]
    stack := (path, nodes.dependenciesOf path) :: s.stack }

/-- The text by which cycles are told apart. -/
def cycleKey (cycle : List String) : String :=
  "->".intercalate cycle

/-- Reports the cycle that a dependency on a file of the way closes, unless its text is known. -/
def close (s : CycleSearch) (path : String) : CycleSearch :=
  let cycle := s.trail.drop (s.trail.idxOf path) ++ [path]
  if s.reported.contains (cycleKey cycle) then s
  else { s with reported := cycleKey cycle :: s.reported, cycles := s.cycles ++ [cycle] }

/-- One step: looks at the next dependency of the current file, or leaves the file. -/
def step (nodes : NodeMap) (s : CycleSearch) : CycleSearch :=
  match s.stack with
  | [] => s
  | (current, []) :: below =>
    { s with
      stack := below
      trail := s.trail.dropLast
      onStack := s.onStack.filter (· ≠ current) }
  | (current, next :: later) :: below =>
    let s := { s with stack := (current, later) :: below }
    if !s.visited.contains next then s.enter nodes next
    else if s.onStack.contains next then s.close next
    -- The file has been left: all that it leads to has been looked at.
    else s

/-- Steps until the way is empty, at most as often as the first argument says. -/
def drain (nodes : NodeMap) : Nat → CycleSearch → CycleSearch
  | 0, s => s
  | fuel + 1, s => if s.stack.isEmpty then s else drain nodes fuel (s.step nodes)

def start (nodes : NodeMap) (s : CycleSearch) (path : String) : CycleSearch :=
  { s with trail := [] }.enter nodes path

/-- Steps that suffice: every file is left once and every dependency looked at once. -/
def effort (nodes : NodeMap) : Nat :=
  nodes.length + 2 * (nodes.flatMap fun node => node.dependencies).length + 1

def visit (nodes : NodeMap) (s : CycleSearch) (path : String) : CycleSearch :=
  if s.visited.contains path then s else drain nodes (effort nodes) (s.start nodes path)

def complete (nodes : NodeMap) : CycleSearch :=
  nodes.foldl (fun s node => s.visit nodes node.path) fresh

end CycleSearch

/-- The cycles of a graph. Each begins and ends with the same file. -/
def NodeMap.cycles (nodes : NodeMap) : List (List String) :=
  (CycleSearch.complete nodes).cycles

end CodeSurvey
