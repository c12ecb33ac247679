import CodeSurvey.Command.Basic
import CodeSurvey.Command.Session
import CodeSurvey.Graph.Metrics
import CodeSurvey.Report.Markdown
import CodeSurvey.Value.Json

set_option autoImplicit false

namespace CodeSurvey.Command

open Log Run

/-- Sets the level of the log: once for information, more often for everything. -/
def configureLogging (verbosity : Nat) : Run Unit :=
  if verbosity = 0 then return
  else modify fun s =>
    let level := if verbosity = 1 then Level.info else .debug
    { s with logging := (s.logging.setup (fun _ => none) level none true).2 }

/-- The files of a folder; ends if the folder is missing or has none. -/
def loadFiles (options : FolderOptions) : Run (List SourceFile) := do
  let folder := DiskPath.ofText options.folder
  let disk := (← get).disk
  let tree := disk.find? folder
  if tree.isNone then
    complain s!"Path not found: {folder.text}"
    exit 2
  match ← logged (Walk.run tree (disk.resolved folder) options.wanted options.unwanted
      options.maxBytes) with
  | .error fault => fail (.walk fault)
  | .ok [] =>
    say "No files matched include/exclude filters."
    exit 0
  | .ok files => return files

/-- The rules of a file, which may be missing. -/
def loadRules (path : DiskPath) : Run Fields := do
  let text ← match (← get).disk.find? path with
    | some (.file octets) =>
      if Text.isUtf8 octets then pure (some (String.ofList (Text.decodeLossy octets)))
      else fail (.encoding path.text)
    | some (.directory _) => fail (.disk ⟨.isADirectory, path⟩)
    | _ => pure none
  match Rules.load Rules.yaml text with
  | .error fault => fail (.value fault)
  | .ok (rules, fault) =>
    log (fault.toList.map fun fault => ⟨.warning, "crossfile.presets", fault.message path.text⟩)
    return rules

def runInitRules (output : String) (force : Bool) : Run Unit := do
  let path := DiskPath.ofText output
  if ((← get).disk.find? path).isSome && !force then
    complain s!"{path.text} already exists; pass --force to overwrite"
    exit 1
  let written ← makeDirectory path.parent
  let written ← match written with
    | .ok _ => writeFile path (Rules.save Rules.yaml Rules.defaults)
    | .error fault => pure (.error fault)
  match written with
  | .ok _ => put (.print s!"[green]Wrote default rules to {path.text}[/]")
  | .error fault => fail (.disk fault)

/-- A section of the screen: its lines, or a remark if there are none. -/
def showSection (title remark : String) (lines : List String) : Run Unit := do
  put (.rule title)
  if lines.isEmpty then put (.print remark)
  lines.forM fun line => put (.print line)

def graphRow (node : FileNode) : List String :=
  [node.path, toString node.dependencies.length, toString node.dependents.length,
    toString node.exports.length, ", ".intercalate node.missing]

def runGraph (options : FolderOptions) : Run Unit := do
  configureLogging options.verbosity
  let files ← loadFiles options
  let built : Trace Empty DependencyGraph := Survey.buildGraph files
  match ← logged built with
  | .error never => nomatch never
  | .ok found =>
    put (.table "Dependency Graph" ["File", "Imports", "Used by", "Exports", "Missing"]
      (found.nodes.map graphRow))
    showSection "[bold]Cycles" "No cycles found."
      (found.cycles.map fun cycle => "[red]" ++ " -> ".intercalate cycle ++ "[/]")
    showSection "[bold]Missing dependencies" "No missing dependencies."
      (found.missing.map fun m => s!"[red]\"{m.specifier}\"[/] in {m.file}")
    showSection "[bold]Unused files" "No unused files."
      (found.unused.map fun path => s!"[yellow]{path}[/]")

def colour : Severity → String
  | .error => "red"
  | .warning => "yellow"
  | .info => "blue"

def issueRow (issue : Issue) : List String :=
  [s!"[{colour issue.severity}]{issue.severity.name}[/]", issue.category.name, issue.location,
    issue.message]

/-- Ends with a message if an export failed. -/
def exported (outcome : Except DiskFault Unit) : Run Unit :=
  match outcome with
  | .ok _ => return
  | .error fault => do
    complain s!"Report export failed: {fault.message}"
    exit 1

def showIssues {σ : Type} (survey : Survey σ) (maxRows : Int) : Run Unit := do
  let count : Nat := survey.issues.length
  put (.table s!"Issues ({count})" ["Severity", "Category", "Location", "Message"]
    ((capped maxRows survey.issues).map issueRow))
  if maxRows < count then put (.print s!"... and {(count : Int) - maxRows} more")
  survey.events.forM fun event => put (.print s!"[yellow]Truncated:[/] {event}")

def writeReports {σ : Type} (scale : Clone.Scale σ) (survey : Survey σ) (directory : DiskPath) :
    Run Unit := do
  let markdown := directory.child "report.md"
  let report := directory.child "report.json"
  let edges := directory.child "dep-graph.json"
  exported (← makeDirectory directory)
  exported (← writeFile markdown (Markdown.text survey 20 10))
  match Document.ofSurvey scale survey with
  | .error fault => fail (.document fault)
  | .ok document => exported (← writeFile report document.toJsonDocument)
  exported (← writeFile edges survey.graph.nodes.graphDocument)
  say s!"Wrote artifacts: {markdown.text}, {report.text}, {edges.text}"

def runAnalyze {σ : Type} (m : Clone.Measure σ Float) (scale : Clone.Scale σ) (clock : Clock)
    (options : SurveyOptions) : Run Unit := do
  configureLogging options.files.verbosity
  let rules ← loadRules (.ofText options.rulesFile)
  put (.rule "[bold]Scanning repository")
  let files ← loadFiles options.files
  put (.print s!"{files.length} files loaded from {(DiskPath.ofText options.files.folder).text}")
  put (.rule "[bold]Analyzing")
  match ← logged (Survey.run m scale clock (.object rules) none options.strict
      (SourceFile.collect [] (files.map .ok))) with
  | .error (.rule fault) => fail (.rule fault)
  | .error (.input fault) =>
    complain s!"Invalid input: {fault.message}"
    exit 2
  | .error (.budget reason _ _) =>
    complain s!"Analysis budget exceeded: {reason}"
    exit 1
  | .ok survey =>
    showIssues survey options.maxRows
    if options.digest then
      put (.rule "[bold]Project digest")
      put (.print survey.digest)
    put (.rule "[bold]Writing reports")
    writeReports scale survey (.ofText options.outputDir)

def run {σ : Type} (m : Clone.Measure σ Float) (scale : Clone.Scale σ) (clock : Clock) :
    Command → Run Unit
  | .analyze options => runAnalyze m scale clock options
  | .graph options => runGraph options
  | .initRules output force => runInitRules output force
  | .help => put .usage

inductive Ending where
  | exit (code : Nat)
  | usage (fault : UsageFault)
  | failure (cause : Failure)

def Ending.code : Ending → Nat
  | .exit code => code
  | .usage _ => 2
  | .failure _ => 1

def runLine {σ : Type} (m : Clone.Measure σ Float) (scale : Clone.Scale σ) (clock : Clock)
    (arguments : List String) (session : Session) : Ending × Session :=
  match ofArguments arguments with
  | .error fault => (.usage fault, session)
  | .ok command =>
    match (run m scale clock command).run.run session with
    | (.ok _, session) => (.exit 0, session)
    | (.error (.exit code), session) => (.exit code, session)
    | (.error (.failure cause), session) => (.failure cause, session)

end CodeSurvey.Command
