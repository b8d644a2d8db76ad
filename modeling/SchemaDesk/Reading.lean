import SchemaDesk.Extraction
import SchemaDesk.Reading.Locate
import SchemaDesk.Reading.Script
/-!
Schemas from scripts. A script that cannot be read gives an error with its place in the script
instead of a schema, never a part of a schema.
-/

namespace SchemaDesk

/-- An error in a script, with its place counted from one. -/
structure ScriptError where
  message : String
  line : Nat := 1
  column : Nat := 1
  deriving DecidableEq, Repr

/-- The outcome of reading a script: a schema, or what is wrong with the script. -/
inductive Reading
  | schema (s : Schema)
  | error (e : ScriptError)
  deriving DecidableEq, Repr

namespace Reading

def succeeded : Reading → Bool
  | .schema _ => true
  | .error _ => false

/-- The schema, which has no parts if the script could not be read. -/
def result : Reading → Schema
  | .schema s => s
  | .error _ => {}

def errors : Reading → List ScriptError
  | .schema _ => []
  | .error e => [e]

/-- A numeral for a place that is known. -/
def known (n : Option Nat) : Value := (n.map fun n => Value.int n).getD .null

/-- The error of a report, at the place that the report gives or that its message mentions. -/
def ofReport (r : SyntaxReport) : Except Failure ScriptError :=
  let report : ErrorReport :=
    { text := r.message
      message := .text r.message
      line := known (r.place.map (·.line))
      column := known (r.place.map (·.column)) }
  report.locate.map fun (line, column) => { message := r.summary, line, column }

/-- Reads the schema of a script. New identifiers are numbered from a serial on; the first unused
serial is part of the result. -/
def ofScript (serial : Nat) (script : String) (d : Dialect) : Except Failure (Reading × Nat) :=
  if Text.strip script == "" then .ok (.schema {}, serial)
  else
    match Script.read d script with
    | .error (.syntaxError report) => (ofReport report).map fun e => (.error e, serial)
    | .error (.other failure) => .error failure
    | .ok statements =>
      match Schema.ofStatements serial statements with
      | .error failure => .ok (.error { message := "Parsing error: " ++ failure.message }, serial)
      | .ok (s, serial) => .ok (.schema s, serial)

/-- Reads a script in the dialect that the value names. -/
def parse (script : String) (dialect : Value) : Except Failure Reading := do
  let d ← Dialect.ofValue dialect
  let (r, _) ← ofScript 0 script d
  return r

/-- Whether a script can be read, and what is wrong with it if not. -/
structure Verdict where
  valid : Bool
  errors : List ScriptError
  deriving DecidableEq, Repr

def validate (script : String) (dialect : Value) : Except Failure Verdict := do
  let r ← parse script dialect
  return { valid := r.succeeded, errors := r.errors }

end Reading

end SchemaDesk
