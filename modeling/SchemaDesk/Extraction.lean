import SchemaDesk.Definition.Column
import SchemaDesk.Definition.Constraint
import SchemaDesk.Schema.Endpoint
/-!
Schemas out of described statements. The tables come first, from the first definition of each name;
then the relations of their constraints and columns; then the relations that later statements add.
A foreign key of which an end does not exist is left out, and so is one between columns that are
connected already. New identifiers are numbered from a given serial on.
-/

namespace SchemaDesk

/-- A table with what its statement says about references. -/
structure TableSource where
  table : Table
  constraints : List TableConstraint
  /-- The references that stand with columns, by the name of the column. -/
  inline : List (String × ColumnReference)

/-- A foreign key by names. -/
structure ForeignKey where
  column : String
  targetTable : String
  targetColumn : String
  actions : Actions := {}
  name : Option String := none

namespace Extraction

/-- An integer column that counts up is a serial one. -/
def columnType (d : ColumnDefinition) : ColumnType :=
  let t := ColumnType.ofSpelling d.typeName
  if d.marks.autoIncrement then t.serialOf?.getD t else t

def column (serial : Nat) (d : ColumnDefinition) : Column :=
  { id := .fresh serial
    name := d.name
    type := columnType d
    primaryKey := d.marks.primaryKey
    nullable := !d.marks.notNull && !d.marks.primaryKey
    unique := d.marks.unique || d.marks.primaryKey
    default := d.default
    length := d.numbers.length
    precision := d.numbers.precision
    scale := d.numbers.scale
    dimension := d.numbers.dimension }

def hasText (v : Value) (name text : String) : Bool :=
  match v.get name with
  | .text s => s == text
  | _ => false

def createsTable (statement : Value) : Bool :=
  hasText statement "type" "create" && hasText statement "keyword" "table"

def altersTable (statement : Value) : Bool := hasText statement "type" "alter"

def columnDescriptions (statement : Value) : List Value :=
  (Value.firstOf [statement.get "create_definitions", statement.get "create_definition"]).asList.filter
    fun item => item.isRecord && (hasText item "resource" "column" || (item.get "column").truthy)

/-- The definitions in a list of descriptions. -/
def definitions : List Value → Except Failure (List ColumnDefinition)
  | [] => .ok []
  | v :: vs =>
    match ColumnDefinition.ofValue? v with
    | .error e => .error e
    | .ok d => (definitions vs).map fun ds => d.toList ++ ds

def columns (serial : Nat) : List ColumnDefinition → List Column
  | [] => []
  | d :: ds => column serial d :: columns (serial + 1) ds

/-- Changes the first column of that name. -/
def changeColumn (name : String) (change : Column → Column) : List Column → List Column
  | [] => []
  | c :: cs =>
    if Text.sameName c.name name then change c :: cs else c :: changeColumn name change cs

def markKey (c : Column) : Column :=
  { c with primaryKey := true, nullable := false, unique := true }

def markUnique (c : Column) : Column := { c with unique := true }

/-- Marks the columns that a key or a unique constraint lists. -/
def applyConstraint (cs : List Column) (k : TableConstraint) : List Column :=
  match k.kind with
  | .primaryKey => k.columns.foldl (fun cs name => changeColumn name markKey cs) cs
  | .unique => k.columns.foldl (fun cs name => changeColumn name markUnique cs) cs
  | _ => cs

def applyConstraints (cs : List Column) (ks : List TableConstraint) : List Column :=
  ks.foldl applyConstraint cs

/-- The table of a statement, with the first unused serial; `none` if no column is left. -/
def source? (serial : Nat) (name : String) (statement : Value) :
    Except Failure (Option (TableSource × Nat)) :=
  (definitions (columnDescriptions statement)).map fun ds =>
    if ds.isEmpty then none
    else
      let constraints := TableConstraint.ofStatement statement
      let table : Table :=
        { id := .fresh (serial + ds.length)
          name := name
          columns := applyConstraints (columns serial ds) constraints }
      some (⟨table, constraints, ds.filterMap fun d => d.reference.map fun r => (d.name, r)⟩,
        serial + ds.length + 1)

def findSource? (sources : List TableSource) (name : String) : Option TableSource :=
  sources.find? fun s => Text.sameName s.table.name name

/-- The tables of all statements that create one, with the first unused serial. `found` holds the
tables of earlier statements. -/
def sourcesFrom (serial : Nat) (found : List TableSource) :
    List Value → Except Failure (List TableSource × Nat)
  | [] => .ok (found, serial)
  | statement :: rest =>
    match if createsTable statement then tableName? statement else none with
    | none => sourcesFrom serial found rest
    | some name =>
      if (findSource? found name).isSome then sourcesFrom serial found rest
      else
        match source? serial name statement with
        | .error e => .error e
        | .ok none => sourcesFrom serial found rest
        | .ok (some (source, serial)) => sourcesFrom serial (found ++ [source]) rest

/-- The foreign key of a constraint: the first columns of both sides. -/
def constraintKey? (k : TableConstraint) : Option ForeignKey :=
  if k.kind == .foreignKey then
    match k.reference, k.columns with
    | some r, column :: _ =>
      r.columns.head?.map fun targetColumn =>
        { column, targetTable := r.table, targetColumn, actions := r.actions, name := k.name }
    | _, _ => none
  else none

def inlineKey (r : String × ColumnReference) : ForeignKey :=
  { column := r.1, targetTable := r.2.table, targetColumn := r.2.column, actions := r.2.actions }

/-- The foreign keys of a table's own statement. -/
def ownKeys (s : TableSource) : List ForeignKey :=
  s.constraints.filterMap constraintKey? ++ s.inline.map inlineKey

/-- An action is one of the four that a schema knows. -/
def actionName (a : Option String) : Option String :=
  some (ReferentialAction.ofText (a.getD "")).name

/-- The relation of a foreign key, if both ends exist. -/
def relation? (sources : List TableSource) (serial : Nat) (s : TableSource) (k : ForeignKey) :
    Option Relation := do
  let column ← s.table.findColumn? k.column
  let target ← findSource? sources k.targetTable
  let targetColumn ← target.table.findColumn? k.targetColumn
  return {
    id := .fresh serial
    sourceTableId := s.table.id
    sourceColumnId := column.id
    targetTableId := target.table.id
    targetColumnId := targetColumn.id
    onDelete := actionName k.actions.onDelete
    onUpdate := actionName k.actions.onUpdate
    name := k.name }

/-- The foreign keys that an alteration adds, one for each added item at most: the item itself comes
first, then its definitions, then its constraint. -/
def addedKey? (spec : Value) : Option ForeignKey :=
  let action := Text.lower (((spec.get "action").orElse (spec.get "keyword")).orElse (.text "")).display
  if spec.isRecord && action == "add" then
    let found := [spec, spec.get "create_definitions", spec.get "constraint"].findSome? fun item =>
      (TableConstraint.ofValue? item).filter fun k => k.kind == .foreignKey && k.reference.isSome
    found.bind constraintKey?
  else none

/-- The foreign keys of a statement that alters a known table. -/
def alteredKeys (sources : List TableSource) (statement : Value) : List (TableSource × ForeignKey) :=
  if altersTable statement then
    match findSource? sources ((tableName? statement).getD "") with
    | none => []
    | some s => ((statement.get "expr").asList.filterMap addedKey?).map fun k => (s, k)
  else []

/-- All foreign keys, in the order in which they count. -/
def foreignKeys (sources : List TableSource) (statements : List Value) :
    List (TableSource × ForeignKey) :=
  (sources.flatMap fun s => (ownKeys s).map fun k => (s, k)) ++
    statements.flatMap (alteredKeys sources)

/-- The relations of foreign keys, with the first unused serial. -/
def relations (sources : List TableSource) (serial : Nat) (found : List Relation) :
    List (TableSource × ForeignKey) → List Relation × Nat
  | [] => (found, serial)
  | (s, k) :: keys =>
    match relation? sources serial s k with
    | none => relations sources serial found keys
    | some r => relations sources (serial + 1) (r.addTo found) keys

end Extraction

/-- The schema of described statements, with the first unused serial. -/
def Schema.ofStatements (serial : Nat) (statements : List Value) : Except Failure (Schema × Nat) :=
  (Extraction.sourcesFrom serial [] statements).map fun (sources, serial) =>
    let keys := Extraction.foreignKeys sources statements
    let (relations, serial) := Extraction.relations sources serial [] keys
    ({ tables := sources.map (·.table), relations }, serial)

end SchemaDesk
