import CodeSurvey.Value.Number

set_option autoImplicit false

namespace CodeSurvey.Command

inductive UsageFault where
  | noSuchOption (name : String)
  | needsValue (name : String)
  | takesNoValue (name : String)
  | notAnInteger (name text : String)
  | missingArgument
  | extraArgument (word : String)
  | noCommand
  | unknownCommand (name : String)
  deriving DecidableEq

def UsageFault.message : UsageFault → String
  | .noSuchOption name => s!"No such option: {name}"
  | .needsValue name => s!"Option '{name}' requires an argument."
  | .takesNoValue name => s!"Option '{name}' does not take a value."
  | .notAnInteger name text => s!"Invalid value for '{name}': '{text}' is not a valid integer."
  | .missingArgument => "Missing argument 'PATH'."
  | .extraArgument word => s!"Got unexpected extra argument ({word})"
  | .noCommand => "Missing command."
  | .unknownCommand name => s!"No such command '{name}'."

/-- The options of a command: those with a value, those without, and the letters that stand for one
of the latter. -/
structure OptionTable where
  valued : List String
  plain : List String
  letters : List (Char × String)

/-- The words of a command line: options in order, and the other words in order. -/
structure Words where
  options : List (String × Option String)
  arguments : List String

namespace Words

def none : Words :=
  ⟨[], []⟩

def withOptions (given : List (String × Option String)) (words : Words) : Words :=
  { words with options := given ++ words.options }

def withArgument (word : String) (words : Words) : Words :=
  { words with arguments := word :: words.arguments }

/-- The option that a word names, and the value behind its equals sign. -/
def splitValue (word : String) : String × Option String :=
  let chars := word.toList
  let name := String.ofList (chars.takeWhile (· != '='))
  match chars.dropWhile (· != '=') with
  | [] => (name, .none)
  | _ :: value => (name, some (String.ofList value))

def ofLetters (table : OptionTable) : List Char → Except UsageFault (List (String × Option String))
  | [] => .ok []
  | letter :: rest =>
    match table.letters.find? (·.1 == letter) with
    | some (_, name) => (ofLetters table rest).map ((name, Option.none) :: ·)
    | .none => .error (.noSuchOption (String.ofList ['-', letter]))

def isOption (word : String) : Bool :=
  word.toList.head? == some '-' && word != "-"

/-- Reads words. An option takes whatever word follows as its value, or what stands behind an equals
sign; short options may be run together. Behind a double dash nothing is an option. Unless they may
be mixed, the first argument ends the options. -/
def read (table : OptionTable) (mixed : Bool) : List String → Except UsageFault Words
  | [] => .ok none
  | word :: rest =>
    if word = "--" then .ok ⟨[], rest⟩
    else if !isOption word then
      if mixed then (read table mixed rest).map (withArgument word) else .ok ⟨[], word :: rest⟩
    else
      let (name, value) := splitValue word
      if table.valued.contains name then
        match value, rest with
        | some text, rest => (read table mixed rest).map (withOptions [(name, some text)])
        | .none, text :: rest => (read table mixed rest).map (withOptions [(name, some text)])
        | .none, [] => .error (.needsValue name)
      else if table.plain.contains name then
        if value.isSome then .error (.takesNoValue name)
        else (read table mixed rest).map (withOptions [(name, .none)])
      else if ['-', '-'].isPrefixOf word.toList then .error (.noSuchOption name)
      -- Letters behind a single dash.
      else do
        let given ← ofLetters table (word.toList.drop 1)
        return withOptions given (← read table mixed rest)

def has (words : Words) (name : String) : Bool :=
  words.options.any (·.1 == name)

def count (words : Words) (name : String) : Nat :=
  words.options.countP (·.1 == name)

def values (words : Words) (name : String) : List String :=
  words.options.filterMap fun (given, value) => if given = name then value else .none

/-- The last value of an option. -/
def text (words : Words) (name default : String) : String :=
  (words.values name).getLast?.getD default

/-- The last value of an option as a whole number. -/
def integer (words : Words) (name : String) (default : Int) : Except UsageFault Int :=
  match (words.values name).getLast? with
  | .none => .ok default
  | some text => (Number.integer text).toOption.elim (.error (.notAnInteger name text)) .ok

def argument (words : Words) : Except UsageFault String :=
  match words.arguments with
  | [] => .error .missingArgument
  | [word] => .ok word
  | _ :: extra :: _ => .error (.extraArgument extra)

end Words

end CodeSurvey.Command
