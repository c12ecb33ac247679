import CodeSurvey.Language.Family
import CodeSurvey.Language.Import
import CodeSurvey.Path

set_option autoImplicit false

namespace CodeSurvey

open Text

inductive Resolution where
  | resolved (path : String)
  | external
  | unresolved
  deriving DecidableEq, Repr

namespace Resolution

/-- Extensions that a specifier may leave out, in the order they are tried. -/
def extensions : List String :=
  [".js", ".jsx", ".ts", ".tsx", ".py", ".java", ".php"]

/-- Files that stand for their directory, in the order they are tried. -/
def indexFiles : List String :=
  ["index.js", "index.ts", "index.tsx", "index.py", "__init__.py"]

/-- Whether a specifier means no file of the project: it begins with neither a dot nor a slash. -/
def isExternal (specifier : String) : Bool :=
  !(specifier.toList.head? == some '.' || specifier.toList.head? == some '/')

/-- The dots and the module path of a relative module. A newline at the end is passed over. -/
def relativeModule? (specifier : List Char) : Option (Nat × List Char) :=
  let dots := specifier.takeWhile (· == '.')
  let rest := specifier.dropWhile (· == '.')
  let path := if rest.getLast? = some '\n' then rest.dropLast else rest
  if dots.isEmpty || !path.all Import.isDotted then none else some (dots.length, path)

/-- A relative module as a relative path: one dot is the directory itself, each further dot one
directory up, and the dots of the module path are slashes. -/
def modulePath (specifier : String) : String :=
  match relativeModule? specifier.toList with
  | some (dots, path) =>
    let up := if dots = 1 then "./" else String.join (List.replicate (dots - 1) "../")
    up ++ String.ofList (path.map fun c => if c = '.' then '/' else c)
  | none => specifier

/-- The paths that a normal form may mean, in the order they are tried. -/
def candidates (normal : String) : List String :=
  -- The root itself is no file.
  if normal.isEmpty then indexFiles
  else
    normal :: extensions.map (normal ++ ·) ++ indexFiles.map fun index => normal ++ "/" ++ index

def firstPresent (files : List String) (paths : List String) : Resolution :=
  (paths.find? files.contains).elim .unresolved .resolved

def resolve (family : Option Family) (specifier importer : String) (files : List String) :
    Resolution :=
  -- A relative module counts by the first character of its path.
  let specifier := if family = some .python then modulePath specifier else specifier
  if isExternal specifier then .external
  else
    let importer := String.ofList (importer.toList.map fun c => if c = '\\' then '/' else c)
    firstPresent files (candidates (Path.normalize (Path.directory importer) specifier))

end Resolution

end CodeSurvey
