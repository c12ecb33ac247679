import CodeSurvey.Cap
import CodeSurvey.Clone.Plain
import CodeSurvey.Source.File

set_option autoImplicit false

namespace CodeSurvey.Clone

open Text

/-- The plain text of some lines of a file. -/
structure Block where
  content : List Char
  startLine : Int
  endLine : Int
  file : String
  deriving DecidableEq, Inhabited

def blockAt (file : String) (lines : List (List Char)) (window : Int) (index : Nat) : Block :=
  ⟨plain (unlines (slice lines index (index + window))), index + 1, index + window, file⟩

def windowCount (length : Nat) (window : Int) : Nat :=
  (length - window + 1 : Int).toNat

/-- The windows of lines whose text has at least `minChars` characters. -/
def blocksOf (file : String) (lines : List (List Char)) (window minChars : Int) : List Block :=
  ((List.range (windowCount lines.length window)).map (blockAt file lines window)).filter
    fun block => minChars ≤ block.content.length

def blocks (file : SourceFile) (window minChars : Int) : List Block :=
  blocksOf file.path file.lines window minChars

end CodeSurvey.Clone
