import CodeSurvey.Command.Words
import CodeSurvey.Rules.File
import CodeSurvey.Tree.Walk

set_option autoImplicit false

namespace CodeSurvey

/-- Which files of a folder are looked at, and how much is logged. -/
structure FolderOptions where
  folder : String
  wanted : List String
  unwanted : List String
  maxBytes : Int
  verbosity : Nat

structure SurveyOptions where
  files : FolderOptions
  outputDir : String
  rulesFile : String
  maxRows : Int
  digest : Bool
  strict : Bool

inductive Command where
  | analyze (options : SurveyOptions)
  | graph (options : FolderOptions)
  | initRules (output : String) (force : Bool)
  | help

namespace Command

def commonTable : OptionTable :=
  ⟨[], ["--help"], []⟩

def graphTable : OptionTable :=
  ⟨["--include", "--exclude", "--max-bytes"], ["--verbose", "--help"], [('v', "--verbose")]⟩

def surveyTable : OptionTable :=
  ⟨graphTable.valued ++ ["--output-dir", "--rules-file", "--workers", "--max-rows"],
    graphTable.plain ++ ["--digest", "--strict"], graphTable.letters⟩

def rulesTable : OptionTable :=
  ⟨["--output"], ["--force", "--no-force", "--help"], []⟩

/-- The options on a folder. Numbers are read before the folder is asked for. -/
def folderOptions (words : Words) : Except UsageFault FolderOptions := do
  let maxBytes ← words.integer "--max-bytes" Walk.defaultMaxBytes
  let folder ← words.argument
  return ⟨folder, words.values "--include", words.values "--exclude", maxBytes,
    words.count "--verbose"⟩

/-- The options of a survey. The number of workers has no effect on the result. -/
def surveyOptions (words : Words) : Except UsageFault SurveyOptions := do
  let _ ← words.integer "--workers" 4
  let maxRows ← words.integer "--max-rows" 25
  let files ← folderOptions words
  return ⟨files, words.text "--output-dir" "reports", words.text "--rules-file" Rules.defaultPath,
    maxRows, words.has "--digest", words.has "--strict"⟩

/-- Whether rules may be overwritten: the last of the two options decides. -/
def isForced (words : Words) : Bool :=
  ((words.options.filter fun (name, _) => name == "--force" || name == "--no-force").getLast?).any
    fun (name, _) => name == "--force"

def ofWords (table : OptionTable) (meaning : Words → Except UsageFault Command)
    (words : List String) : Except UsageFault Command := do
  let words ← Words.read table true words
  if words.has "--help" then return .help
  meaning words

/-- The writing of rules takes no argument. -/
def initRulesOf (words : Words) : Except UsageFault Command :=
  match words.arguments with
  | [] => .ok (.initRules (words.text "--output" Rules.defaultPath) (isForced words))
  | extra :: _ => .error (.extraArgument extra)

def ofArguments (arguments : List String) : Except UsageFault Command := do
  let words ← Words.read commonTable false arguments
  if words.has "--help" then return .help
  match words.arguments with
  | [] => throw .noCommand
  | "analyze" :: rest => ofWords surveyTable (fun words => (surveyOptions words).map .analyze) rest
  | "graph" :: rest => ofWords graphTable (fun words => (folderOptions words).map .graph) rest
  | "init-rules" :: rest => ofWords rulesTable initRulesOf rest
  | name :: _ => throw (.unknownCommand name)

end Command

end CodeSurvey
