import SchemaDesk.Schema.Edit
/-!
The editor works on one schema, which it changes in place. Each operation is a program that reads and writes, and a
program that fails leaves behind what it has written until then.
-/

namespace SchemaDesk

abbrev Editor := EStateM Failure Schema

namespace Editor

def addTable (tableId columnId : Id) (name : GivenName) : Editor Table := do
  let name ← ofExcept name.read
  let s ← get
  let unused := Naming.unusedName (Schema.orDefault name Schema.defaultTableName) (s.tables.map (·.name))
  let t : Table := { id := tableId, name := unused, columns := [Schema.idColumn columnId] }
  set { s with tables := s.tables ++ [t] }
  return t

/-- The new name is worked out before the table is looked for, so that an unusable one fails even if the table is
missing. -/
def updateTable (id : Id) (patch : TablePatch) : Editor (Option Table) := do
  let s ← get
  let found := s.table? id
  let others := (s.tables.filter fun t => t.id != id).map (·.name)
  match ← ofExcept (Schema.newName? patch.name others ((found.map (·.name)).getD "")), found with
  | some name, some t =>
    let t ← ofExcept (patch.apply name t)
    set (s.setTable t)
    return some t
  | _, _ => return none

def deleteTable (id : Id) : Editor Unit := do
  modify fun s => { s with tables := s.tables.filter fun t => t.id != id }
  modify fun s => { s with relations := s.relations.filter fun r => !r.touchesTable id }

def addColumn (tableId columnId : Id) (name : GivenName) (patch : ColumnPatch) : Editor (Option Column) := do
  let s ← get
  match s.table? tableId with
  | none => return none
  | some t =>
    let name ← ofExcept name.read
    let unused := Naming.unusedName (Schema.orDefault name Schema.defaultColumnName) (t.columns.map (·.name))
    let c ← ofExcept (patch.apply unused { id := columnId, name := unused })
    set (s.setTable { t with columns := t.columns ++ [c] })
    return some c

def updateColumn (tableId columnId : Id) (patch : ColumnPatch) : Editor (Option Column) := do
  let s ← get
  match s.table? tableId with
  | none => return none
  | some t =>
    let found := t.column? columnId
    let others := (t.columns.filter fun c => c.id != columnId).map (·.name)
    match ← ofExcept (Schema.newName? patch.name others ((found.map (·.name)).getD "")), found with
    | some name, some c =>
      let c ← ofExcept (patch.apply name c)
      set (s.setTable { t with columns := changeFirst (fun d => d.id == c.id) c t.columns })
      return some c
    | _, _ => return none

/-- The column goes first, its relations after it. -/
def deleteColumn (tableId columnId : Id) : Editor Unit := do
  let s ← get
  match s.table? tableId with
  | none => return ()
  | some t =>
    set (s.setTable { t with columns := t.columns.filter fun c => c.id != columnId })
    modify fun s => { s with relations := s.relations.filter fun r => !r.touchesColumn columnId }

def reorderColumns (tableId : Id) (order : Option (List Id)) : Editor Unit := do
  let s ← get
  match s.table? tableId with
  | none => return ()
  | some t =>
    match order with
    | none => throw .invalidArgument
    | some order => set (s.setTable { t with columns := Schema.reordered t.columns order })

def addRelation (id : Id) (patch : RelationPatch) : Editor (Option Relation) := do
  let r ← ofExcept (patch.create id)
  let s ← get
  if r.existsIn s.relations then return none
  set { s with relations := s.relations ++ [r] }
  return some r

def updateRelation (id : Id) (patch : RelationPatch) : Editor (Option Relation) := do
  let s ← get
  match s.relations.find? fun r => r.id == id with
  | none => return none
  | some r =>
    let r ← ofExcept (patch.apply r)
    set { s with relations := changeFirst (fun q => q.id == id) r s.relations }
    return some r

def deleteRelation (id : Id) : Editor Unit :=
  modify fun s => { s with relations := s.relations.filter fun r => r.id != id }

end Editor

end SchemaDesk
