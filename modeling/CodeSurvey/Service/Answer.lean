import CodeSurvey.Report.Document
import CodeSurvey.Rules.File
import CodeSurvey.Service.Request

set_option autoImplicit false

namespace CodeSurvey.Service

inductive Answer where
  | healthy
  | notFound
  | wrongMethod
  | report (document : Value)
  /-- A budget was reached; the report holds what was found until then. -/
  | overBudget (reason : String) (document : Value)
  | refused (fault : InputFault)
  | malformed (problems : List Problem)
  /-- A body with a number that is too long to be read. -/
  | unparsed
  /-- Rules that cannot be used, or a finding that a report cannot hold. -/
  | failed

def Answer.status : Answer → Nat
  | .healthy => 200
  | .notFound => 404
  | .wrongMethod => 405
  | .report _ => 200
  | .overBudget .. => 413
  | .refused _ => 422
  | .malformed _ => 422
  | .unparsed => 400
  | .failed => 500

/-- The body of an answer; a failure has none. -/
def Answer.body? : Answer → Option Value
  | .healthy => some (.object [("status", .text "ok")])
  | .notFound => some (.object [("detail", .text "Not Found")])
  | .wrongMethod => some (.object [("detail", .text "Method Not Allowed")])
  | .report document => some document
  | .overBudget reason document => some (.object [("detail", .text reason), ("partial", document)])
  | .refused fault => some (.object [("detail", .text fault.message)])
  | .malformed problems => some (.object [("detail", .list (problems.map (·.toValue)))])
  | .unparsed => some (.object [("detail", .text "There was an error parsing the body")])
  | .failed => none

def FileEntry.source (entry : FileEntry) : Except InputFault SourceFile :=
  SourceFile.make entry.path entry.content (entry.language.getD "")

def answerOf {σ : Type} (scale : Clone.Scale σ) : Except (Refusal σ) (Survey σ) → Answer
  | .ok survey => (Document.ofSurvey scale survey).toOption.elim .failed .report
  | .error (.input fault) => .refused fault
  | .error (.rule _) => .failed
  | .error (.budget reason _ found) =>
    (Document.ofSurvey scale found).toOption.elim .failed (.overBudget reason)

/-- The answer to a sound body: a survey in strict mode, by the rules of the rules file with those
of the request laid over them. `rulesText` is the text of the rules file if there is one. -/
def fulfil {σ : Type} (m : Clone.Measure σ Float) (scale : Clone.Scale σ) (clock : Clock)
    (rulesText : Option String) (order : Order) : Answer :=
  match Rules.load Rules.yaml rulesText with
  | .error _ => .failed
  | .ok (base, _) =>
    match Rules.merge base (order.rules.elim .null .object) with
    | .error _ => .failed
    | .ok rules =>
      let files := SourceFile.collect [] (order.files.map (·.source))
      answerOf scale (Survey.run m scale clock (.object rules) none true files).outcome

def analyze {σ : Type} (m : Clone.Measure σ Float) (scale : Clone.Scale σ) (clock : Clock)
    (rulesText : Option String) (body : Body) : Answer :=
  match body with
  -- Every other text that cannot be read counts as a malformed body.
  | .unreadable .tooManyDigits => .unparsed
  | _ =>
    match Order.ofBody body with
    | .ok order => fulfil m scale clock rulesText order
    | .error problems => .malformed problems

/-- The path of a request without a query and without slashes at its end. One at its beginning may
be left out. -/
def Request.route (request : Request) : String :=
  let path := request.path.toList.takeWhile fun c => c != '?' && c != '#'
  let path := if path.head? = some '/' then path else '/' :: path
  String.ofList (Text.dropEndWhile (· == '/') path)

def answer {σ : Type} (m : Clone.Measure σ Float) (scale : Clone.Scale σ) (clock : Clock)
    (rulesText : Option String) (request : Request) : Answer :=
  let method := request.method.toUpper
  match request.route with
  | "/api/health" => if method = "GET" then .healthy else .wrongMethod
  | "/api/analyze" =>
    if method = "POST" then analyze m scale clock rulesText request.body else .wrongMethod
  | _ => .notFound

end CodeSurvey.Service
