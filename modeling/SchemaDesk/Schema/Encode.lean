import SchemaDesk.Schema
/-!
Schemas as structured values. How identifiers are shown and how the names of fields are spelled is
left open.
-/

namespace SchemaDesk

/-- A way to write the parts of a schema. -/
structure Encoding where
  idText : Id → String
  /-- The spelling of a name whose words stand between underscores. -/
  fieldName : String → String

namespace Encoding

open Value (text list)

def fields (e : Encoding) (fs : List (String × Value)) : Value :=
  .record (fs.map fun f => (e.fieldName f.1, f.2))

def id (e : Encoding) (i : Id) : Value := text (e.idText i)

def optionalText : Option String → Value
  | some s => text s
  | none => .null

def optionalInt : Option Int → Value
  | some n => .int n
  | none => .null

def column (e : Encoding) (c : Column) : Value :=
  e.fields [
    ("id", e.id c.id),
    ("name", text c.name),
    ("type", text c.type.name),
    ("primary_key", .bool c.primaryKey),
    ("nullable", .bool c.nullable),
    ("unique", .bool c.unique),
    ("default", optionalText c.default),
    ("length", optionalInt c.length),
    ("precision", optionalInt c.precision),
    ("scale", optionalInt c.scale),
    ("dimension", optionalInt c.dimension)]

def coordinate : Coordinate → Value
  | .whole n => .int n
  | .real x => .real x

def position : Option Position → Value
  | some p => .record [("x", coordinate p.x), ("y", coordinate p.y)]
  | none => .null

def table (e : Encoding) (t : Table) : Value :=
  e.fields [
    ("id", e.id t.id),
    ("name", text t.name),
    ("color", text t.color),
    ("columns", list (t.columns.map e.column)),
    ("position", position t.position),
    ("parent_node", optionalText t.parentNode)]

def relation (e : Encoding) (r : Relation) : Value :=
  e.fields [
    ("id", e.id r.id),
    ("source_table_id", e.id r.sourceTableId),
    ("source_column_id", e.id r.sourceColumnId),
    ("target_table_id", e.id r.targetTableId),
    ("target_column_id", e.id r.targetColumnId),
    ("type", text r.type.name),
    ("on_delete", optionalText r.onDelete),
    ("on_update", optionalText r.onUpdate),
    ("name", optionalText r.name)]

/-- The fields of a schema. -/
def schemaFields (e : Encoding) (s : Schema) : List (String × Value) :=
  [("tables", list (s.tables.map e.table)), ("relations", list (s.relations.map e.relation))]

end Encoding

end SchemaDesk
