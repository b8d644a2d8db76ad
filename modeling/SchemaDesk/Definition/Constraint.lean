import SchemaDesk.Definition.Reference
/-!
Constraints of tables in one form, whatever the shape of the description that they come from.
-/

namespace SchemaDesk

inductive ConstraintKind
  | primaryKey
  | foreignKey
  | unique
  | check
  | index
  | unknown
  deriving DecidableEq, Repr

namespace ConstraintKind

def name : ConstraintKind → String
  | primaryKey => "PRIMARY KEY"
  | foreignKey => "FOREIGN KEY"
  | unique => "UNIQUE"
  | check => "CHECK"
  | index => "INDEX"
  | unknown => "UNKNOWN"

/-- The kind that a tag in upper case names; the first word that occurs in it decides. -/
def ofTag (tag : String) : ConstraintKind :=
  if Text.hasWord tag "PRIMARY" then primaryKey
  else if Text.hasWord tag "FOREIGN" then foreignKey
  else if Text.hasWord tag "UNIQUE" then unique
  else if Text.hasWord tag "CHECK" then check
  else if Text.hasWord tag "INDEX" || tag == "KEY" then index
  else unknown

end ConstraintKind

structure TableConstraint where
  kind : ConstraintKind
  columns : List String := []
  name : Option String := none
  reference : Option TableReference := none
  /-- The fields that no rule explains, with the text of a check. -/
  extra : List (String × Value) := []

namespace TableConstraint

def knownFields : List String :=
  ["resource", "constraint_type", "type", "constraint_name", "name", "keyword", "definition",
    "columns", "index_columns", "reference_definition", "reference", "on_delete", "on_update"]

/-- The item describes a column and no constraint. -/
def describesColumn (item : Value) : Bool :=
  (match item.get "resource" with
    | .text s => s == "column"
    | _ => false) ||
  ((item.get "column").truthy && ((item.get "definition").get "dataType").truthy)

def tag (item : Value) : String :=
  Text.upper ((((item.get "constraint_type").orElse (item.get "type")).orElse
    (item.get "resource")).orElse (.text "")).display

def source (item : Value) : Value :=
  Value.firstOf [item.get "definition", item.get "columns", item.get "index_columns"]

def referenceOf (item : Value) : Option TableReference :=
  TableReference.ofValue?
    (Value.firstOf [item.get "reference_definition", item.get "reference"]) item

/-- A check keeps its text, all other kinds have columns. -/
def checkOf (kind : ConstraintKind) (item : Value) : List (String × Value) :=
  if kind == .check && !(source item).isNull then [("check", .text (checkText (source item)))] else []

def ofKind (kind : ConstraintKind) (item : Value) : TableConstraint :=
  { kind
    columns := if kind == .check then [] else namesOf (source item)
    name := ((item.get "constraint_name").orElse (item.get "name")).nameText?
    reference := if kind == .foreignKey then referenceOf item else none
    extra := (otherFields knownFields item).foldl (fun fields f => setField f.1 f.2 fields)
      (checkOf kind item) }

/-- The constraint in a description; `none` if that describes a column or nothing. -/
def ofValue? (item : Value) : Option TableConstraint :=
  if !item.isRecord || describesColumn item || tag item == "" then none
  else some (ofKind (.ofTag (tag item)) item)

/-- All constraints of a statement that creates a table. -/
def ofStatement (statement : Value) : List TableConstraint :=
  ([statement.get "constraint", statement.get "create_definitions",
    statement.get "create_definition"].flatMap (·.asList)).filterMap ofValue?

end TableConstraint

end SchemaDesk
