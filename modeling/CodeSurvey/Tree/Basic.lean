import CodeSurvey.Text.Lines

set_option autoImplicit false

namespace CodeSurvey

open Text

inductive Tree where
  | file (octets : List Nat)
  /-- A link whose target is missing. -/
  | dangling
  | directory (entries : List (String × Tree))
  deriving Inhabited

/-- Why a path leads to no entry, or to one of a wrong kind. -/
inductive PathFault where
  | missing
  | exists
  | notADirectory
  | isADirectory
  deriving DecidableEq, Repr

namespace Tree

def octetsOf (text : String) : List Nat :=
  text.toUTF8.toList.map (·.toNat)

def child? (entries : List (String × Tree)) (name : String) : Option Tree :=
  (entries.find? (·.1 == name)).map (·.2)

/-- Gives a name an entry: in its place if it is there, else at the end. -/
def put : List (String × Tree) → String → Tree → List (String × Tree)
  | [], name, tree => [(name, tree)]
  | (first, old) :: rest, name, tree =>
    if first = name then (first, tree) :: rest else (first, old) :: put rest name tree

/-- The entries of a directory; other entries have none. -/
def entries : Tree → List (String × Tree)
  | .directory entries => entries
  | _ => []

def isDirectory : Tree → Bool
  | .directory _ => true
  | _ => false

/-- Puts an entry at a path; the directories on the way are made. -/
def insert (leaf : Tree) : List String → Tree → Tree
  | [], _ => leaf
  | name :: rest, tree =>
    let old := (child? tree.entries name).getD (.directory [])
    .directory (put tree.entries name (insert leaf rest old))

/-- The segments of a path, without empty ones and single dots. -/
def segments (path : String) : List String :=
  ((splitAt '/' path.toList).filter fun s => s != [] && s != ['.']).map String.ofList

/-- The entry that segments lead to; a double dot leads to the directory above. -/
def follow : List Tree → Tree → List String → Except PathFault Tree
  | _, tree, [] => .ok tree
  | above, tree, name :: rest =>
    match tree with
    | .directory entries =>
      if name = ".." then
        match above with
        | parent :: more => follow more parent rest
        | [] => .error .missing
      else
        match child? entries name with
        | some child => follow (tree :: above) child rest
        | none => .error .missing
    | .file _ => .error .notADirectory
    | .dangling => .error .missing

def locate (tree : Tree) (segments : List String) : Except PathFault Tree :=
  follow [] tree segments

/-- The entry at the end of segments if there is one; a link that leads nowhere counts as
missing. -/
def find? (tree : Tree) (segments : List String) : Option Tree :=
  match tree.locate segments with
  | .ok .dangling => none
  | .ok found => some found
  | .error _ => none

mutual

def files (path : String) : Tree → List (String × List Nat)
  | .file octets => [(path, octets)]
  | .dangling => []
  | .directory entries => filesOf path entries

def filesOf (path : String) : List (String × Tree) → List (String × List Nat)
  | [] => []
  | (name, tree) :: rest =>
    files (if path.isEmpty then name else path ++ "/" ++ name) tree ++ filesOf path rest

end

/-- The files of a tree that an older tree does not have with the same content. -/
def written (before after : Tree) : List (String × List Nat) :=
  let old := before.files ""
  (after.files "").filter fun file => !old.contains file

end Tree

end CodeSurvey
