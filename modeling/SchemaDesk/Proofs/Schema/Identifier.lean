import SchemaDesk.Schema.Endpoint

/-!
The identifiers of a schema, and the same schema under other identifiers.
-/

namespace SchemaDesk

def Column.mapIds (f : Id → Id) (c : Column) : Column := { c with id := f c.id }

def Table.mapIds (f : Id → Id) (t : Table) : Table :=
  { t with id := f t.id, columns := t.columns.map (Column.mapIds f) }

def Relation.mapIds (f : Id → Id) (r : Relation) : Relation :=
  { r with
    id := f r.id
    sourceTableId := f r.sourceTableId
    sourceColumnId := f r.sourceColumnId
    targetTableId := f r.targetTableId
    targetColumnId := f r.targetColumnId }

namespace Schema

/-- The schema with every identifier replaced. -/
def mapIds (f : Id → Id) (s : Schema) : Schema :=
  { tables := s.tables.map (Table.mapIds f), relations := s.relations.map (Relation.mapIds f) }

def tableIds (s : Schema) : List Id := s.tables.map (·.id)

def columnIds (s : Schema) : List Id := s.tables.flatMap fun t => t.columns.map (·.id)

/-- The identifiers that tables, columns and relations have as their own. -/
def ids (s : Schema) : List Id := s.tableIds ++ s.columnIds ++ s.relations.map (·.id)

theorem mem_ids_of_mem_tableIds {s : Schema} {id : Id} (h : id ∈ s.tableIds) : id ∈ s.ids :=
  List.mem_append_left _ (List.mem_append_left _ h)

theorem mem_ids_of_mem_columnIds {s : Schema} {id : Id} (h : id ∈ s.columnIds) : id ∈ s.ids :=
  List.mem_append_left _ (List.mem_append_right _ h)

end Schema

end SchemaDesk
