import SchemaDesk.Schema.Endpoint
/-!
A schema that was read from an edited script takes over the identifiers of the schema before the
edit. A table is known again by its name or, if that changed, by its position in the script before
the edit; a column is known again by its name alone.
-/

namespace SchemaDesk

/-- A schema after an edit, with the tables that got another name. -/
structure Reconciled where
  schema : Schema
  /-- Old names with new names, one entry for each old name. -/
  renamed : List (String × String)
  deriving DecidableEq, Repr

namespace Reconciliation

def findByName? (tables : List Table) (name : String) : Option Table :=
  tables.find? fun t => Text.sameName t.name name

/-- Old tables for new tables, in order, each identifier used once. -/
structure Matching where
  /-- The old table of each new table so far. -/
  found : List (Option Table) := []
  claimed : List Id := []

namespace Matching

def add (m : Matching) (candidate : Option Table) : Matching :=
  match candidate with
  | none => { m with found := m.found ++ [none] }
  | some t =>
    if m.claimed.contains t.id then { m with found := m.found ++ [none] }
    else { found := m.found ++ [some t], claimed := m.claimed ++ [t.id] }

end Matching

/-- Each new table takes the first old table of its name, unless an earlier one took it. -/
def matchNames (old new : List Table) : Matching :=
  new.foldl (fun m t => m.add (findByName? old t.name)) {}

/-- The old table that was written at the place of the new one under another name. -/
def renamedFrom? (old : List Table) (earlier : Option String) (new : Table) : Option Table :=
  match earlier with
  | none => none
  | some name => if Text.sameName name new.name then none else findByName? old name

/-- Completes the matches of names by position. -/
def matchPositions (old : List Table) (claimed : List Id) (done : List (Option Table)) :
    List (Option String) → List (Table × Option Table) → List (Option Table)
  | _, [] => done
  | names, (_, some t) :: rest =>
    matchPositions old claimed (done ++ [some t]) names.tail rest
  | names, (new, none) :: rest =>
    let m := Matching.add ⟨done, claimed⟩ (renamedFrom? old (names.head?.getD none) new)
    matchPositions old m.claimed m.found names.tail rest

/-- The old table of each new table: by name first, for all tables, then by position. -/
def matching (old : List Table) (earlierNames : List String) (new : List Table) :
    List (Option Table) :=
  let m := matchNames old new
  matchPositions old m.claimed [] (earlierNames.map some) (new.zip m.found)

/-- The identifier of a column: that of the first old column of the same name, if there is one. -/
def mergeColumn (old : Table) (c : Column) : Column :=
  match old.findColumn? c.name with
  | some o => { c with id := o.id }
  | none => c

/-- A new table with the identifiers and the place on the canvas of the old one. -/
def mergeTable (old : Option Table) (new : Table) : Table :=
  match old with
  | none => new
  | some o =>
    { new with
      id := o.id
      color := o.color
      columns := new.columns.map (mergeColumn o)
      position := o.position
      parentNode := o.parentNode }

/-- What became of an identifier. The last entry counts. -/
def mapId (ids : List (Id × Id)) (id : Id) : Id :=
  ((ids.reverse).lookup id).getD id

/-- New tables with their merged forms. -/
def tableIds (pairs : List (Table × Table)) : List (Id × Id) :=
  pairs.map fun p => (p.1.id, p.2.id)

def columnIds (pairs : List (Table × Table)) : List (Id × Id) :=
  pairs.flatMap fun p => (p.1.columns.zip p.2.columns).map fun c => (c.1.id, c.2.id)

/-- Both ends of the relation are among the tables. Of tables with one identifier the last counts. -/
def hasEnds (tables : List Table) (r : Relation) : Bool :=
  let holds (e : Endpoint) : Bool :=
    match tables.reverse.find? fun t => t.id == e.table with
    | some t => (t.column? e.column).isSome
    | none => false
  holds r.source && holds r.target

def mapEnds (pairs : List (Table × Table)) (r : Relation) : Relation :=
  { r with
    sourceTableId := mapId (tableIds pairs) r.sourceTableId
    sourceColumnId := mapId (columnIds pairs) r.sourceColumnId
    targetTableId := mapId (tableIds pairs) r.targetTableId
    targetColumnId := mapId (columnIds pairs) r.targetColumnId }

/-- Old relations whose ends still exist come first, then the new ones that connect other ends. -/
def mergeRelations (tables : List Table) (old new : List Relation) : List Relation :=
  (new.filter (hasEnds tables)).foldl (fun rs r => r.addTo rs) (old.filter (hasEnds tables))

/-- Sets the entry of an old name. -/
def setRenamed (old new : String) (entries : List (String × String)) : List (String × String) :=
  if entries.any (·.1 == old) then entries.map fun e => if e.1 == old then (old, new) else e
  else entries ++ [(old, new)]

/-- The old tables that have another name now. -/
def renamedTables (old : List (Option Table)) (new : List Table) : List (String × String) :=
  (old.zip new).foldl (fun entries p =>
    match p.1 with
    | none => entries
    | some o => if Text.sameName o.name p.2.name then entries else setRenamed o.name p.2.name entries) []

end Reconciliation

open Reconciliation in
/-- Carries identifiers and the canvas over from the old schema. `earlierNames` are the tables of
the script before the edit, in its order. -/
def Schema.reconcile (old : Schema) (earlierNames : List String) (new : Schema) : Reconciled :=
  let found := matching old.tables earlierNames new.tables
  let tables := (found.zip new.tables).map fun p => mergeTable p.1 p.2
  let pairs := new.tables.zip tables
  { schema := {
      tables
      relations := mergeRelations tables old.relations (new.relations.map (mapEnds pairs)) }
    renamed := renamedTables found new.tables }

end SchemaDesk
