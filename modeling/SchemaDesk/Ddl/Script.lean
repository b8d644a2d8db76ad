import SchemaDesk.Ddl.TypeText
import SchemaDesk.Timestamp
/-!
Schemas as scripts: a heading, one `CREATE TABLE` for each table, and one `ALTER TABLE` for each
relation whose ends exist.
-/

namespace SchemaDesk

def indent : String := "  "

namespace Column

/-- How the only key column of a table is marked. PostgreSQL marks a serial key in a clause of its
own. -/
def keyClause (c : Column) (d : Dialect) : List String :=
  match d with
  | .postgresql => if c.type.isSerial then [] else ["PRIMARY KEY"]
  | .mysql => ["PRIMARY KEY"]
  | .sqlite => if c.type.isSerial then ["PRIMARY KEY AUTOINCREMENT"] else ["PRIMARY KEY"]

/-- The clauses behind the type. A key column says `NOT NULL` only if the key has other columns. -/
def clauses (c : Column) (d : Dialect) (compositeKey : Bool) : List String :=
  (if c.primaryKey && !compositeKey then c.keyClause d else []) ++
  (if (!c.nullable && !c.primaryKey) || (c.primaryKey && compositeKey) then ["NOT NULL"] else []) ++
  (if c.unique && !c.primaryKey then ["UNIQUE"] else []) ++
  (match c.default with
    | none => []
    | some s => if s == "" then [] else ["DEFAULT " ++ s])

def line (c : Column) (d : Dialect) (compositeKey : Bool) : String :=
  " ".intercalate ((indent ++ c.name) :: c.typeText d :: c.clauses d compositeKey)

end Column

namespace Table

def keyColumns (t : Table) : List Column := t.columns.filter (·.primaryKey)

def hasCompositeKey (t : Table) : Bool := 1 < t.keyColumns.length

def keyLine (names : List String) : String :=
  indent ++ "PRIMARY KEY (" ++ ", ".intercalate names ++ ")"

/-- The clause on the key behind all columns: for several key columns, and for a serial one in
PostgreSQL. -/
def keyLines (t : Table) (d : Dialect) : List String :=
  if t.hasCompositeKey then [keyLine (t.keyColumns.map (·.name))]
  else
    match d with
    | .postgresql =>
      match t.keyColumns.find? (·.type.isSerial) with
      | some c => [keyLine [c.name]]
      | none => []
    | _ => []

def bodyLines (t : Table) (d : Dialect) : List String :=
  t.columns.map (·.line d t.hasCompositeKey) ++ t.keyLines d

def script (t : Table) (d : Dialect) : String :=
  "CREATE TABLE " ++ t.name ++ " (\n" ++ ",\n".intercalate (t.bodyLines d) ++ "\n);"

end Table

namespace Relation

/-- The tables and columns at the two ends. -/
structure Ends where
  sourceTable : Table
  sourceColumn : Column
  targetTable : Table
  targetColumn : Column

def ends? (r : Relation) (tables : List Table) : Option Ends := do
  let sourceTable ← tables.find? fun t => t.id == r.sourceTableId
  let targetTable ← tables.find? fun t => t.id == r.targetTableId
  let sourceColumn ← sourceTable.column? r.sourceColumnId
  let targetColumn ← targetTable.column? r.targetColumnId
  return { sourceTable, sourceColumn, targetTable, targetColumn }

def actionClause (event : String) (action : Option String) : String :=
  match action with
  | none => ""
  | some a => if a == "" then "" else " ON " ++ event ++ " " ++ a

namespace Ends

def constraintName (e : Ends) : String := "fk_" ++ e.sourceTable.name ++ "_" ++ e.sourceColumn.name

end Ends

/-- The statement that adds the foreign key, if both ends exist. -/
def script? (r : Relation) (tables : List Table) : Option String :=
  (r.ends? tables).map fun e =>
    "ALTER TABLE " ++ e.sourceTable.name ++ "\n" ++
    indent ++ "ADD CONSTRAINT " ++ e.constraintName ++ "\n" ++
    indent ++ "FOREIGN KEY (" ++ e.sourceColumn.name ++ ")\n" ++
    indent ++ "REFERENCES " ++ e.targetTable.name ++ "(" ++ e.targetColumn.name ++ ")" ++
    actionClause "DELETE" r.onDelete ++ actionClause "UPDATE" r.onUpdate ++ ";"

end Relation

namespace Schema

def heading (d : Dialect) (madeAt : String) : List String :=
  ["-- Generated by DBKeep", "-- Database: " ++ d.name, "-- Generated at: " ++ madeAt, ""]

def tableLines (s : Schema) (d : Dialect) : List String :=
  if s.tables.isEmpty then []
  else ["-- Tables", ""] ++ s.tables.flatMap fun t => [t.script d, ""]

/-- The statements of all relations whose ends exist. -/
def foreignKeys (s : Schema) : List String := s.relations.filterMap (·.script? s.tables)

def relationLines (s : Schema) : List String :=
  if s.relations.isEmpty then []
  else ["-- Foreign Keys", ""] ++ s.foreignKeys.flatMap fun k => [k, ""]

/-- The whole script, without blank margins. -/
def script (s : Schema) (d : Dialect) (madeAt : String) : String :=
  Text.strip ("\n".intercalate (heading d madeAt ++ s.tableLines d ++ s.relationLines))

/-- What stands for a script when there is no schema. -/
def noScript : String := "-- No project loaded"

/-- The script of a schema that may be missing. -/
def scriptOf (s : Option Schema) (d : Dialect) (madeAt : Timestamp) : Except Failure String :=
  match s with
  | none => .ok noScript
  | some s => madeAt.toText.map (s.script d)

end Schema

end SchemaDesk
