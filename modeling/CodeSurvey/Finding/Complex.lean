import CodeSurvey.Source.Complexity
import CodeSurvey.Source.Declarations
import CodeSurvey.Source.File

set_option autoImplicit false

namespace CodeSurvey

structure ComplexFunction where
  file : String
  function : String
  line : Int
  complexity : Int

namespace ComplexFunction

def scores (file : SourceFile) : List (Source.Function × Nat) :=
  (Source.functions file.family file.content.toList).map fun f =>
    (f, Source.complexity f.body.toList)

/-- The functions of a file that are more complex than `warnAt`. -/
def detect (file : SourceFile) (warnAt : Int) : List ComplexFunction :=
  ((scores file).filter fun (_, score) => warnAt < score).map fun (f, score) =>
    ⟨file.path, f.name, f.line, score⟩

end ComplexFunction

end CodeSurvey
