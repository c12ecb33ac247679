import CodeSurvey.Value.Literal
import CodeSurvey.Yaml.Plain
import CodeSurvey.Yaml.Token

set_option autoImplicit false

namespace CodeSurvey.Yaml

open Text

inductive Cause where
  | control (c : Char) (position : Nat)
  | keyWithoutColon
  | misplacedEntry
  | misplacedKey
  | misplacedValue
  /-- A character that begins nothing. -/
  | character (c : Char)
  /-- A form of the language that is not read: a directive, an anchor, an alias, a tag or a block
  scalar. -/
  | unsupported
  | unclosedQuote
  | separatorInQuote
  /-- An escape with too few digits. -/
  | shortEscape (length : Nat) (found : Option Char)
  | unknownEscape (found : Option Char)
  /-- Something behind a document. -/
  | documentStart (found : Kind)
  /-- Something in the place of a value. -/
  | content (block : Bool) (found : Kind)
  | sequenceEnd (found : Kind)
  | mappingEnd (found : Kind)
  | listEnd (found : Kind)
  | mapEnd (found : Kind)
  | secondDocument
  | compoundKey
  /-- Something else than objects to take fields over from. -/
  | mergeSource (found : String)
  /-- An item of a list of objects to take fields over from that is no object. -/
  | mergeItem (found : String)
  /-- A mark that is no value by itself. -/
  | bareMark (mark : Special)
  /-- A part that has no value though it has the form of one. -/
  | value (fault : ValueFault)

namespace Cause

/-- A character in quotes; the end of the text is shown as the zero character. -/
def quoteEnd (found : Option Char) : String :=
  Literal.quote (found.getD (Char.ofNat 0)).toString

/-- What was being read. -/
def context? : Cause → Option String
  | .keyWithoutColon => some "while scanning a simple key"
  | .character _ => some "while scanning for the next token"
  | .unclosedQuote | .separatorInQuote => some "while scanning a quoted scalar"
  | .shortEscape .. | .unknownEscape _ => some "while scanning a double-quoted scalar"
  | .content block _ =>
    some (if block then "while parsing a block node" else "while parsing a flow node")
  | .sequenceEnd _ => some "while parsing a block collection"
  | .mappingEnd _ => some "while parsing a block mapping"
  | .listEnd _ => some "while parsing a flow sequence"
  | .mapEnd _ => some "while parsing a flow mapping"
  | .secondDocument => some "expected a single document in the stream"
  | .compoundKey | .mergeSource _ | .mergeItem _ => some "while constructing a mapping"
  | _ => none

def problem : Cause → String
  | .control .. => "special characters are not allowed"
  | .keyWithoutColon => "could not find expected ':'"
  | .misplacedEntry => "sequence entries are not allowed here"
  | .misplacedKey => "mapping keys are not allowed here"
  | .misplacedValue => "mapping values are not allowed here"
  | .character c => s!"found character {Literal.quote c.toString} that cannot start any token"
  | .unsupported => "unsupported form"
  | .unclosedQuote => "found unexpected end of stream"
  | .separatorInQuote => "found unexpected document separator"
  | .shortEscape length found =>
    s!"expected escape sequence of {length} hexadecimal numbers, but found {quoteEnd found}"
  | .unknownEscape found => "found unknown escape character " ++ quoteEnd found
  | .documentStart found => s!"expected '<document start>', but found {Literal.quote found.name}"
  | .content _ found => "expected the node content, but found " ++ Literal.quote found.name
  | .sequenceEnd found | .mappingEnd found =>
    "expected <block end>, but found " ++ Literal.quote found.name
  | .listEnd found => "expected ',' or ']', but got " ++ Literal.quote found.name
  | .mapEnd found => "expected ',' or '\x7d', but got " ++ Literal.quote found.name
  | .secondDocument => "but found another document"
  | .compoundKey => "found unhashable key"
  | .mergeSource found => "expected a mapping or list of mappings for merging, but found " ++ found
  | .mergeItem found => "expected a mapping for merging, but found " ++ found
  | .bareMark mark =>
    s!"could not determine a constructor for the tag 'tag:yaml.org,2002:{mark.name}'"
  | .value fault => fault.message

end Cause

/-- What is wrong, where it was found, and where what was being read begins. -/
structure Fault where
  cause : Cause
  start : Option Mark
  place : Mark

/-- The message of a fault in a text. A beginning is shown only if it is another place. -/
def Fault.message (source : List Char) (fault : Fault) : String :=
  match fault.cause with
  | .control c position =>
    s!"unacceptable character #x{hexText 4 c.toNat}: {fault.cause.problem}\n" ++
      s!"  in \"<unicode string>\", position {position}"
  | cause =>
    let start := fault.start.filter fun mark =>
      mark.line ≠ fault.place.line ∨ mark.column ≠ fault.place.column
    "\n".intercalate (cause.context?.toList ++ (start.map (Mark.describe source)).toList ++
      [cause.problem, fault.place.describe source])

end CodeSurvey.Yaml
