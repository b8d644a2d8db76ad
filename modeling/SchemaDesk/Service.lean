import SchemaDesk.Schema.Encode
import SchemaDesk.Service.Request
import SchemaDesk.Session
import SchemaDesk.Settings
/-!
The service for pages that show a schema: it reads, checks, writes and compares scripts on request.
-/

namespace SchemaDesk.Service

/-- What the parts of a request's body are. -/
inductive Body
  | none
  | value (v : Value)
  /-- A text that is not marked as structured. -/
  | raw (s : String)

structure Request where
  method : String := "POST"
  path : String
  body : Body := .none

/-- The contents of an answer. -/
inductive Content
  | greeting
  /-- A text that says why there is no other answer. -/
  | detail (s : String)
  | parsed (r : Reading)
  | validated (errors : List ScriptError)
  | generated (script : String)
  | reconciled (succeeded : Bool) (s : Schema) (renamed : List (String × String))
      (errors : List ScriptError)
  /-- The errors in the body of a request. -/
  | malformed (errors : List FieldError)

structure Response where
  status : Nat
  content : Content

namespace Content

open Value (text list record)

def errorValue (e : ScriptError) : Value :=
  record [("message", text e.message), ("line", .int e.line), ("column", .int e.column)]

def errorsField (es : List ScriptError) : String × Value := ("errors", list (es.map errorValue))

def stepValue : Step → Value
  | .field name => text name
  | .item n => .int n

def fieldErrorValue (e : FieldError) : Value :=
  record [("loc", list (e.place.map stepValue)), ("type", text e.kind)]

/-- The schema in an answer, as far as there is one. -/
def schema : Content → Schema
  | parsed r => r.result
  | reconciled _ s _ _ => s
  | _ => {}

/-- The answer as a structured value. -/
def toValue (idText : Id → String) (c : Content) : Value :=
  let e : Encoding := { idText, fieldName := Naming.camelCase }
  match c with
  | greeting => record [("message", text "DBKeep Schema API")]
  | detail s => record [("detail", text s)]
  | parsed r =>
    record ([("success", .bool r.succeeded)] ++ e.schemaFields r.result ++ [errorsField r.errors])
  | validated errors => record [("valid", .bool errors.isEmpty), errorsField errors]
  | generated script => record [("sql", text script)]
  | reconciled succeeded s renamed errors =>
    record ([("success", .bool succeeded)] ++ e.schemaFields s ++ [
      ("renamedTables", record (renamed.map fun r => (r.1, text r.2))), errorsField errors])
  | malformed errors => list (errors.map fieldErrorValue)

end Content

/-- The body of a request, as far as it can be checked at all. -/
def bodyValue : Body → Checked Value
  | .none => .error "missing"
  | .value .null => .error "missing"
  | .value v => .valid v
  | .raw s => if s == "" then .error "missing" else .error "model_attributes_type"

/-- Answers a request whose body is well formed, in the dialect that it names. -/
def answer (c : Check α) (dialect : α → String) (b : Body)
    (respond : α → Dialect → Except Failure Content) : Response :=
  let checked := match bodyValue b with
    | .valid v => c v
    | .invalid errors => .invalid errors
  match checked.within (.field "body") with
  | .invalid errors => ⟨422, .malformed errors⟩
  | .valid a =>
    match Dialect.ofName (dialect a) with
    | .error f => ⟨400, .detail f.message⟩
    | .ok d =>
      match respond a d with
      | .error f => ⟨500, .detail f.message⟩
      | .ok content => ⟨200, content⟩

def parse (r : ScriptRequest) (d : Dialect) : Except Failure Content :=
  (Reading.ofScript 0 r.script d).map fun (reading, _) => .parsed reading

def validate (r : ScriptRequest) (d : Dialect) : Except Failure Content :=
  (Reading.ofScript 0 r.script d).map fun (reading, _) => .validated reading.errors

def generate (now : Timestamp) (r : SchemaRequest) (d : Dialect) : Except Failure Content :=
  (Schema.scriptOf (some r.schema) d now).map .generated

/-- An edited script that cannot be read leaves the schema as it is. -/
def reconcile (r : EditRequest) (d : Dialect) : Except Failure Content := do
  let (reading, _) ← Reading.ofScript 0 r.script d
  match reading with
  | .error e => return .reconciled false r.schema [] [e]
  | .schema new =>
    let merged ← r.schema.reconcileScript (r.earlier.getD "") new d
    return .reconciled true merged.schema merged.renamed []

/-- The actions of the service by their paths. -/
def actions (settings : Settings) (now : Timestamp) : List (String × (Body → Response)) :=
  let usual := settings.defaultDialect
  let script := Check.scriptRequest usual
  [("/sql/parse", fun b => answer script (·.dialect) b parse),
    ("/sql/validate", fun b => answer script (·.dialect) b validate),
    ("/sql/generate", fun b => answer (Check.schemaRequest usual) (·.dialect) b (generate now)),
    ("/sql/reconcile", fun b => answer (Check.editRequest usual) (·.dialect) b reconcile)]

/-- The path that a request means: what follows a question mark is left out, and so are slashes at
the end. A path begins at the root with or without a slash. -/
def meantPath (path : String) : String :=
  let cs := path.toList.takeWhile fun c => c != '?' && c != '#'
  match (cs.reverse.dropWhile (· == '/')).reverse with
  | '/' :: cs => String.ofList ('/' :: cs)
  | cs => String.ofList ('/' :: cs)

/-- Answers a request at some time. -/
def respond (settings : Settings) (now : Timestamp) (r : Request) : Response :=
  let path := meantPath r.path
  let method := Text.upper r.method
  if path == "/" then
    if method == "GET" then ⟨200, .greeting⟩ else ⟨405, .detail "Method Not Allowed"⟩
  else
    match (actions settings now).lookup path with
    | none => ⟨404, .detail "Not Found"⟩
    | some act => if method == "POST" then act r.body else ⟨405, .detail "Method Not Allowed"⟩

end SchemaDesk.Service
