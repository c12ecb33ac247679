import CodeSurvey.Pattern.Search

set_option autoImplicit false

namespace CodeSurvey.Entry

/-- A path that begins with a text and a dot. -/
def named (begin : String) : Pattern :=
  .all [.textStart, .text begin, .char '.']

/-- A path that ends with a text, a dot and one of four extensions. -/
def component (name : String) : Pattern :=
  .all [.text name, .char '.',
    .alt (.seq (.text "ts") (.optional (.char 'x'))) (.seq (.text "js") (.optional (.char 'x'))),
    .textEnd]

def patterns : List Pattern :=
  [named "index", named "main", named "app", named "src/index", named "src/main", component "page",
   component "layout"]

/-- Entry points are used though no file imports them; they are known by their names. -/
def isEntryPoint (path : String) : Bool :=
  patterns.any fun p => p.occursIn path.toList

/-- Whether a path counts as an entry point in the digest, where route handlers do too. -/
def isDigestEntry (path : String) : Bool :=
  isEntryPoint path || (component "route").occursIn path.toList

end CodeSurvey.Entry
