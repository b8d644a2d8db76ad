import SchemaDesk.Failure
/-!
The database systems whose language is read and written.
-/

namespace SchemaDesk

inductive Dialect
  | postgresql
  | mysql
  | sqlite
  deriving DecidableEq, Repr

namespace Dialect

def all : List Dialect := [postgresql, mysql, sqlite]

def name : Dialect → String
  | postgresql => "PostgreSQL"
  | mysql => "MySQL"
  | sqlite => "SQLite"

/-- The accepted names, in lower case. -/
def aliases : List (String × Dialect) :=
  [("postgresql", postgresql), ("postgres", postgresql), ("mysql", mysql), ("sqlite", sqlite)]

def ofName? (s : String) : Option Dialect :=
  aliases.lookup (Text.lower (Text.strip s))

/-- Reads a dialect from any value by its display text; what counts as absent reads as the empty
name. -/
def ofValue (v : Value) : Except Failure Dialect :=
  match ofName? (if v.truthy then v.display else "") with
  | some d => .ok d
  | none => .error (.unsupportedDialect v.display)

def ofName (s : String) : Except Failure Dialect := ofValue (.text s)

end Dialect

end SchemaDesk
