import SchemaDesk.Ddl.Script
import SchemaDesk.Reading
import SchemaDesk.Reconciliation
/-!
Work on a schema through its script: the schema is written as a script, the script is edited, and the
edited script changes the schema.
-/

namespace SchemaDesk

/-- A schema together with the script that was last written or read for it. -/
structure Session where
  schema : Schema := {}
  script : String := ""
  /-- The serial of the next new identifier. -/
  serial : Nat := 0

namespace Reading

/-- The names of the tables of a script, in its order; none if it cannot be read. -/
def tableNames (script : String) (d : Dialect) : Except Failure (List String) :=
  if script == "" then .ok []
  else (ofScript 0 script d).map fun (r, _) => r.result.tables.map (·.name)

end Reading

/-- Carries identifiers over from an old schema, whose script before the edit is given. -/
def Schema.reconcileScript (old : Schema) (script : String) (new : Schema) (d : Dialect) :
    Except Failure Reconciled :=
  (Reading.tableNames script d).map fun names => old.reconcile names new

/-- The outcome of an edited script: the new names of tables, or what is wrong with the script. -/
inductive EditOutcome
  | renamed (names : List (String × String))
  | rejected (errors : List ScriptError)
  deriving DecidableEq, Repr

namespace Session

/-- Writes the script of the schema. -/
def generate (s : Session) (d : Dialect) (madeAt : Timestamp) :
    Except Failure (Session × String) :=
  (Schema.scriptOf (some s.schema) d madeAt).map fun script => ({ s with script }, script)

/-- Replaces the schema by that of a script, unless the script has errors. -/
def load (s : Session) (script : String) (d : Dialect) :
    Except Failure (Session × List ScriptError) :=
  (Reading.ofScript s.serial script d).map fun (r, serial) =>
    match r with
    | .schema schema => ({ schema, script, serial }, [])
    | .error e => (s, [e])

/-- The script with all replacements, one after the other. -/
def edited (s : Session) (replacements : List (String × String)) : String :=
  replacements.foldl (fun script p => Text.replace script p.1 p.2) s.script

/-- Reads the script after some replacements and carries the identifiers over. If the edited script
has errors, nothing changes. -/
def edit (s : Session) (replacements : List (String × String)) (d : Dialect) :
    Except Failure (Session × EditOutcome) := do
  let script := s.edited replacements
  let (r, serial) ← Reading.ofScript s.serial script d
  match r with
  | .error e => return (s, .rejected [e])
  | .schema new =>
    let merged ← s.schema.reconcileScript s.script new d
    return ({ schema := merged.schema, script, serial }, .renamed merged.renamed)

end Session

end SchemaDesk
