set_option autoImplicit false

namespace CodeSurvey.Text

def maxCode : Nat := 0x10FFFF

def isHighSurrogate (code : Nat) : Bool :=
  0xD800 ≤ code && code < 0xDC00

def isLowSurrogate (code : Nat) : Bool :=
  0xDC00 ≤ code && code < 0xE000

/-- The characters of numbers. A high and a low surrogate in a row stand for one character together.
A surrogate on its own is no character and becomes the zero character. -/
def ofCodes : List Nat → List Char
  | [] => []
  | high :: low :: rest =>
    if isHighSurrogate high && isLowSurrogate low then
      Char.ofNat (0x10000 + (high - 0xD800) * 0x400 + (low - 0xDC00)) :: ofCodes rest
    else Char.ofNat high :: ofCodes (low :: rest)
  | [only] => [Char.ofNat only]

end CodeSurvey.Text
