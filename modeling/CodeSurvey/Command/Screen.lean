import CodeSurvey.Command.Session

set_option autoImplicit false

namespace CodeSurvey.Command

open Log

/-- The marks for colours in screen texts. -/
def marks : List (List Char) :=
  ["[bold]", "[red]", "[green]", "[yellow]", "[blue]", "[/]"].map (·.toList)

/-- A text without marks. The first argument tells how many characters of a mark are still to
pass. -/
def dropMarks : Nat → List Char → List Char
  | _, [] => []
  | n + 1, _ :: rest => dropMarks n rest
  | 0, c :: rest =>
    match marks.find? fun mark => mark.isPrefixOf (c :: rest) with
    | some mark => dropMarks (mark.length - 1) rest
    | none => c :: dropMarks 0 rest

def unmarked (text : String) : String :=
  String.ofList (dropMarks 0 text.toList)

/-- The widths of columns: each as wide as its widest cell. -/
def widths : List (List String) → List Nat
  | [] => []
  | row :: rest =>
    let later := widths rest
    let own := row.map String.length
    (List.range (max own.length later.length)).map fun i => max (own.getD i 0) (later.getD i 0)

def rowText (widths : List Nat) (row : List String) : String :=
  "  ".intercalate (List.zipWith padded widths row)

def usageLines : List String :=
  ["Cross-file dependency and code quality analysis",
   "  analyze PATH [--include GLOB]... [--exclude GLOB]... [--max-bytes N] [--output-dir DIR]",
   "               [--rules-file FILE] [--workers N] [--max-rows N] [--digest] [--strict] [-v]",
   "  graph PATH [--include GLOB]... [--exclude GLOB]... [--max-bytes N] [-v]",
   "  init-rules [--output FILE] [--force]"]

/-- Panels as plain text: titles between dashes, tables with columns of one width, and no
colours. -/
def Panel.lines : Panel → List String
  | .rule title => ["-- " ++ unmarked title ++ " --"]
  | .print text => [unmarked text]
  | .table title columns rows =>
    let cells := columns :: rows.map (·.map unmarked)
    title :: cells.map (rowText (widths cells))
  | .usage => usageLines

end CodeSurvey.Command
