import SchemaDesk.Naming
import SchemaDesk.Schema.Endpoint
import SchemaDesk.Schema.Patch
/-!
Edits of a schema on the canvas. An edit that fails or has no effect leaves the schema as it was. New
names are made unused, deleted parts take their relations with them, and key columns stay in front.
-/

namespace SchemaDesk

/-- Changes the first element that satisfies the predicate. -/
def changeFirst (p : α → Bool) (a : α) : List α → List α
  | [] => []
  | x :: xs => if p x then a :: xs else x :: changeFirst p a xs

namespace Schema

def defaultTableName : String := "new_table"

def defaultColumnName : String := "column"

def orDefault (name default : String) : String := if name == "" then default else name

/-- A schema after an edit, and what was added or changed. -/
structure Edited (α : Type) where
  schema : Schema
  subject : α

def setTable (s : Schema) (t : Table) : Schema :=
  { s with tables := changeFirst (fun u => u.id == t.id) t s.tables }

/-- The key column that each new table starts with. -/
def idColumn (id : Id) : Column :=
  { id, name := "id", type := .serial, primaryKey := true, nullable := false, unique := true }

/-- Adds a table with one key column; it takes the given identifiers. -/
def addTable (s : Schema) (tableId columnId : Id) (name : GivenName) :
    Except Failure (Edited Table) :=
  name.read.map fun name =>
    let unused := Naming.unusedName (orDefault name defaultTableName) (s.tables.map (·.name))
    let t : Table := { id := tableId, name := unused, columns := [idColumn columnId] }
    ⟨{ s with tables := s.tables ++ [t] }, t⟩

/-- The name that a patch asks for, made unused; `none` if it is blank, and `current` if the patch
leaves the name alone. -/
def newName? (asked : Option GivenName) (others : List String) (current : String) :
    Except Failure (Option String) :=
  match asked with
  | none => .ok (some current)
  | some given => given.read.map fun name =>
    if name == "" then none else some (Naming.unusedName name others)

/-- Changes a table; nothing happens if the new name is blank or no table has that identifier. -/
def updateTable (s : Schema) (id : Id) (patch : TablePatch) :
    Except Failure (Option (Edited Table)) := do
  let others := (s.tables.filter fun t => t.id != id).map (·.name)
  let found := s.table? id
  match ← newName? patch.name others ((found.map (·.name)).getD "") with
  | none => return none
  | some name =>
    match found with
    | none => return none
    | some t =>
      let t ← patch.apply name t
      return some ⟨s.setTable t, t⟩

def deleteTable (s : Schema) (id : Id) : Schema :=
  { tables := s.tables.filter fun t => t.id != id
    relations := s.relations.filter fun r => !r.touchesTable id }

/-- Adds a column to a table, if the table is there. -/
def addColumn (s : Schema) (tableId columnId : Id) (name : GivenName) (patch : ColumnPatch) :
    Except Failure (Option (Edited Column)) :=
  match s.table? tableId with
  | none => .ok none
  | some t => do
    let name ← name.read
    let unused := Naming.unusedName (orDefault name defaultColumnName) (t.columns.map (·.name))
    let c ← patch.apply unused { id := columnId, name := unused }
    return some ⟨s.setTable { t with columns := t.columns ++ [c] }, c⟩

/-- Changes a column; nothing happens if the new name is blank or there is no such column. -/
def updateColumn (s : Schema) (tableId columnId : Id) (patch : ColumnPatch) :
    Except Failure (Option (Edited Column)) :=
  match s.table? tableId with
  | none => .ok none
  | some t => do
    let others := (t.columns.filter fun c => c.id != columnId).map (·.name)
    let found := t.column? columnId
    match ← newName? patch.name others ((found.map (·.name)).getD "") with
    | none => return none
    | some name =>
      match found with
      | none => return none
      | some c =>
        let c ← patch.apply name c
        let columns := changeFirst (fun d => d.id == c.id) c t.columns
        return some ⟨s.setTable { t with columns }, c⟩

/-- Deletes a column of a table, and all relations with a column of that identifier. -/
def deleteColumn (s : Schema) (tableId columnId : Id) : Schema :=
  match s.table? tableId with
  | none => s
  | some t =>
    let s := s.setTable { t with columns := t.columns.filter fun c => c.id != columnId }
    { s with relations := s.relations.filter fun r => !r.touchesColumn columnId }

/-- The columns in the order of the list, unlisted ones behind; then the key columns first. An
identifier in the list stands for the last column that has it. -/
def reordered (cs : List Column) (order : List Id) : List Column :=
  let listed := order.filterMap fun id => cs.reverse.find? fun c => c.id == id
  let ordered := listed ++ cs.filter fun c => !listed.any fun d => d.id == c.id
  ordered.filter (·.primaryKey) ++ ordered.filter fun c => !c.primaryKey

/-- Reorders the columns of a table, if the table is there. An order that is no list of identifiers
fails. -/
def reorderColumns (s : Schema) (tableId : Id) (order : Option (List Id)) : Except Failure Schema :=
  match s.table? tableId with
  | none => .ok s
  | some t =>
    match order with
    | none => .error .invalidArgument
    | some order => .ok (s.setTable { t with columns := reordered t.columns order })

def hasRelation (s : Schema) (patch : RelationPatch) (id : Id) : Except Failure Bool :=
  (patch.create id).map fun r => r.existsIn s.relations

/-- Adds a relation, unless its ends are connected already. -/
def addRelation (s : Schema) (id : Id) (patch : RelationPatch) :
    Except Failure (Option (Edited Relation)) :=
  (patch.create id).map fun r =>
    if r.existsIn s.relations then none
    else some ⟨{ s with relations := s.relations ++ [r] }, r⟩

def updateRelation (s : Schema) (id : Id) (patch : RelationPatch) :
    Except Failure (Option (Edited Relation)) :=
  match s.relations.find? fun r => r.id == id with
  | none => .ok none
  | some r => (patch.apply r).map fun r =>
    some ⟨{ s with relations := changeFirst (fun q => q.id == id) r s.relations }, r⟩

def deleteRelation (s : Schema) (id : Id) : Schema :=
  { s with relations := s.relations.filter fun r => r.id != id }

def relationsOf (s : Schema) (tableId : Id) : List Relation :=
  s.relations.filter (·.touchesTable tableId)

end Schema

end SchemaDesk
