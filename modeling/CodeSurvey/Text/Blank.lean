import CodeSurvey.Text.Ranges

set_option autoImplicit false

namespace CodeSurvey.Text

def blankRanges : Ranges :=
  [(0x9, 0xD), (0x1C, 0x20), (0x85, 0x85), (0xA0, 0xA0), (0x1680, 0x1680), (0x2000, 0x200A),
   (0x2028, 0x2029), (0x202F, 0x202F), (0x205F, 0x205F), (0x3000, 0x3000)]

def isBlank (c : Char) : Bool :=
  blankRanges.has c

def trimStart (text : List Char) : List Char :=
  text.dropWhile isBlank

/-- A text without its last characters that satisfy `drop`. -/
def dropEndWhile (drop : Char → Bool) (text : List Char) : List Char :=
  (text.reverse.dropWhile drop).reverse

def trimEnd (text : List Char) : List Char :=
  dropEndWhile isBlank text

def trim (text : List Char) : List Char :=
  trimEnd (trimStart text)

/-- A text without the characters at its two ends that satisfy `drop`. -/
def trimOf (drop : Char → Bool) (text : List Char) : List Char :=
  dropEndWhile drop (text.dropWhile drop)

def isBlankText (text : List Char) : Bool :=
  text.all isBlank

/-- How many blanks a line begins with. -/
def indentation (line : List Char) : Nat :=
  (line.takeWhile isBlank).length

/-- The words of a text: its longest runs of characters that are not blank. -/
def words (text : List Char) : List (List Char) :=
  (text.foldr
    (fun c (found : List (List Char) × Bool) =>
      if isBlank c then (found.1, false)
      else
        match found with
        | (first :: more, true) => ((c :: first) :: more, true)
        | (all, _) => ([c] :: all, true))
    ([], false)).1

/-- Each run of blanks becomes one space. -/
def collapseBlanks (text : List Char) : List Char :=
  (text.foldr
    (fun c (found : List Char × Bool) =>
      if isBlank c then
        if found.2 then found else (' ' :: found.1, true)
      else (c :: found.1, false))
    ([], false)).1

end CodeSurvey.Text
