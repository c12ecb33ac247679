import CodeSurvey.Yaml.Mark

set_option autoImplicit false

namespace CodeSurvey.Yaml

/-- The kinds of tokens. Indentation gives rise to tokens of its own: the beginning and the end of
block collections. -/
inductive Kind where
  | streamEnd
  | documentStart
  | documentEnd
  | blockSequence
  | blockMapping
  | blockEnd
  | openList
  | closeList
  | openMap
  | closeMap
  | comma
  | entry
  | key
  | value
  /-- A text; `plain` tells that it stands without quotes. -/
  | scalar (text : List Char) (plain : Bool)
  deriving DecidableEq, Inhabited

def Kind.name : Kind → String
  | .streamEnd => "<stream end>"
  | .documentStart => "<document start>"
  | .documentEnd => "<document end>"
  | .blockSequence => "<block sequence start>"
  | .blockMapping => "<block mapping start>"
  | .blockEnd => "<block end>"
  | .openList => "["
  | .closeList => "]"
  | .openMap => "\x7b"
  | .closeMap => "\x7d"
  | .comma => ","
  | .entry => "-"
  | .key => "?"
  | .value => ":"
  | .scalar .. => "<scalar>"

structure Token where
  kind : Kind
  mark : Mark
  deriving DecidableEq, Inhabited

end CodeSurvey.Yaml
