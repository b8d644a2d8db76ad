import SchemaDesk.Schema
import SchemaDesk.Service.Check
/-!
The bodies of requests: scripts, and schemas as they are on the canvas.
-/

namespace SchemaDesk.Service

namespace Check

def id : Check Id := fun v => (text v).map .named

def columnType : Check ColumnType := choice "enum" ColumnType.ofName?

def relationKind : Check RelationKind := choice "enum" RelationKind.ofName?

/-- Actions must be spelled exactly. -/
def actionName : Check (Option String) :=
  choice "literal_error" fun s =>
    (ReferentialAction.all.find? fun a => a.name == s).map fun a => some a.name

def position : Check Position := record fun fields =>
  (fun x y => { x := .real x, y := .real y }) <$>
    required "x" real fields <*> required "y" real fields

def column : Check Column := record fun fields =>
  Column.mk <$> required "id" id fields
    <*> required "name" text fields
    <*> withDefault "type" columnType .varchar fields
    <*> withDefault "primary_key" truth false fields
    <*> withDefault "nullable" truth true fields
    <*> withDefault "unique" truth false fields
    <*> withDefault "default" (optional text) none fields
    <*> withDefault "length" (optional whole) none fields
    <*> withDefault "precision" (optional whole) none fields
    <*> withDefault "scale" (optional whole) none fields
    <*> withDefault "dimension" (optional whole) none fields

def table : Check Table := record fun fields =>
  Table.mk <$> required "id" id fields
    <*> required "name" text fields
    <*> withDefault "color" text defaultColor fields
    <*> withDefault "columns" (list column) [] fields
    <*> withDefault "position" (optional position) none fields
    <*> withDefault "parent_node" (optional text) none fields

def relation : Check Relation := record fun fields =>
  let noAction := some ReferentialAction.noAction.name
  Relation.mk <$> required "id" id fields
    <*> required "source_table_id" id fields
    <*> required "source_column_id" id fields
    <*> required "target_table_id" id fields
    <*> required "target_column_id" id fields
    <*> withDefault "type" relationKind .oneToMany fields
    <*> withDefault "on_delete" actionName noAction fields
    <*> withDefault "on_update" actionName noAction fields
    <*> withDefault "name" (optional text) none fields

end Check

/-- A script to read. -/
structure ScriptRequest where
  script : String
  dialect : String

/-- A schema to write. -/
structure SchemaRequest where
  schema : Schema
  dialect : String

/-- A schema, its script before an edit if that is known, and the edited script. -/
structure EditRequest where
  schema : Schema
  earlier : Option String
  script : String
  dialect : String

namespace Check

/-- The dialect of a request, if it names another one than usual. -/
def dialect (usual : String) (fields : List (String × Value)) : Checked String :=
  withDefault "dialect" text usual fields

def schema (fields : List (String × Value)) : Checked Schema :=
  Schema.mk <$> withDefault "tables" (list table) [] fields
    <*> withDefault "relations" (list relation) [] fields

def scriptRequest (usual : String) : Check ScriptRequest := record fun fields =>
  ScriptRequest.mk <$> required "sql" text fields <*> dialect usual fields

def schemaRequest (usual : String) : Check SchemaRequest := record fun fields =>
  SchemaRequest.mk <$> schema fields <*> dialect usual fields

def editRequest (usual : String) : Check EditRequest := record fun fields =>
  EditRequest.mk <$> schema fields
    <*> withDefault "original_sql" (optional text) none fields
    <*> required "sql" text fields
    <*> dialect usual fields

end Check

end SchemaDesk.Service
