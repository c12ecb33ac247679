import CodeSurvey.Text.Blank
import CodeSurvey.Text.Lowercase

set_option autoImplicit false

namespace CodeSurvey

open Text

/-- The families whose lexical rules are known. Tags that mean the same lexical rules form one. -/
inductive Family where
  | ecmascript
  | python
  | java
  | php
  deriving DecidableEq, Repr

/-- How the end of a function's body is found. -/
inductive BodyStyle where
  | braces
  | indent
  deriving DecidableEq, Repr

namespace Family

def name : Family → String
  | .ecmascript => "ecmascript"
  | .python => "python"
  | .java => "java"
  | .php => "php"

/-- The tags of a family, in lower case. -/
def tags : Family → List String
  | .ecmascript =>
    ["js", "jsx", "mjs", "cjs", "ts", "tsx", "mts", "cts", "javascript", "typescript", "ecmascript"]
  | .python => ["py", "pyw", "python"]
  | .java => ["java"]
  | .php => ["php"]

def every : List Family :=
  [.ecmascript, .python, .java, .php]

/-- A tag in the form in which families list it: trimmed, in lower case, without leading dots. -/
def plainTag (tag : String) : String :=
  String.ofList ((lower (trim tag.toList)).dropWhile (· == '.'))

def ofTag? (tag : String) : Option Family :=
  every.find? fun family => family.tags.contains (plainTag tag)

/-- Only one family marks bodies by indentation. -/
def bodyStyle : Family → BodyStyle
  | .python => .indent
  | _ => .braces

end Family

end CodeSurvey
