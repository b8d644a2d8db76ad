import SchemaDesk.Proofs.Extraction.Keys
import SchemaDesk.Proofs.Extraction.Sources

/-!
Extracted schemas are well formed, whatever the described statements are.
-/

namespace SchemaDesk

/-- A schema whose names and identifiers are in order, whose key columns are marked in full and whose
relations connect columns that are there, each pair once. -/
structure Schema.WellFormed (s : Schema) : Prop where
  table_names : ∀ t ∈ s.tables, t.name ≠ ""
  table_names_distinct : (s.tables.map fun t => Text.lower t.name).Nodup
  columns_ne_nil : ∀ t ∈ s.tables, t.columns ≠ []
  column_names : ∀ t ∈ s.tables, ∀ c ∈ t.columns, c.name ≠ ""
  ids_distinct : (s.tableIds ++ s.columnIds).Nodup
  keys : ∀ t ∈ s.tables, ∀ c ∈ t.columns, c.primaryKey = true → c.nullable = false ∧ c.unique = true
  relation_type : ∀ r ∈ s.relations, r.type = .oneToMany
  relation_actions : ∀ r ∈ s.relations, ∀ a, a = r.onDelete ∨ a = r.onUpdate →
    a ∈ [some "CASCADE", some "SET NULL", some "RESTRICT", some "NO ACTION"]
  ends_exist : ∀ r ∈ s.relations, ∀ e, e = r.source ∨ e = r.target →
    ∃ t ∈ s.tables, t.id = e.table ∧ ∃ c ∈ t.columns, c.id = e.column
  connects_once : s.relations.Pairwise fun r q => ¬ r.Connects q

namespace Extraction

theorem ofStatements_eq_ok {serial next : Nat} {vs : List Value} {s : Schema}
    (h : Schema.ofStatements serial vs = .ok (s, next)) :
    ∃ sources middle, sourcesFrom serial [] vs = .ok (sources, middle) ∧
      s.tables = sources.map (·.table) ∧ Represented sources (foreignKeys sources vs) s.relations := by
  unfold Schema.ofStatements at h
  cases hsources : sourcesFrom serial [] vs with
  | error e => rw [hsources] at h; cases h
  | ok found =>
    obtain ⟨sources, middle⟩ := found
    rw [hsources] at h
    obtain ⟨rfl, -⟩ := Prod.mk.inj (Except.ok.inj h)
    exact ⟨sources, middle, rfl, rfl, relations_represented _ middle [] [] .nil⟩

theorem mem_of_findSource? {sources : List TableSource} {name : String} {s : TableSource}
    (h : findSource? sources name = some s) : s ∈ sources :=
  List.mem_of_find?_eq_some h

/-- Every foreign key belongs to an extracted table. -/
theorem mem_sources_of_mem_foreignKeys {sources : List TableSource} {vs : List Value}
    {key : TableSource × ForeignKey} (h : key ∈ foreignKeys sources vs) : key.1 ∈ sources := by
  rcases List.mem_append.mp h with h | h
  · obtain ⟨s, hs, hkey⟩ := List.mem_flatMap.mp h
    obtain ⟨k, -, rfl⟩ := List.mem_map.mp hkey
    exact hs
  · obtain ⟨v, -, hkey⟩ := List.mem_flatMap.mp h
    unfold alteredKeys at hkey
    split at hkey
    · split at hkey
      · cases hkey
      · next s hs =>
        obtain ⟨k, -, rfl⟩ := List.mem_map.mp hkey
        exact mem_of_findSource? hs
    · cases hkey

theorem actionName_mem (a : Option String) :
    actionName a ∈ [some "CASCADE", some "SET NULL", some "RESTRICT", some "NO ACTION"] := by
  rw [actionName]
  cases ReferentialAction.ofText (a.getD "") <;> decide

theorem IsRelationOf.ends_exist {sources : List TableSource} {key : TableSource × ForeignKey}
    {r : Relation} (h : IsRelationOf sources key r) (hkey : key.1 ∈ sources) {e : Endpoint}
    (he : e = r.source ∨ e = r.target) :
    ∃ t ∈ sources.map (·.table), t.id = e.table ∧ ∃ c ∈ t.columns, c.id = e.column := by
  obtain ⟨n, h⟩ := h
  obtain ⟨c, target, d, hc, htarget, hd, rfl⟩ := relation?_eq_some_iff.mp h
  rcases he with rfl | rfl
  · exact ⟨_, List.mem_map_of_mem hkey, rfl, c, List.mem_of_find?_eq_some hc, rfl⟩
  · exact ⟨_, List.mem_map_of_mem (mem_of_findSource? htarget), rfl, d, List.mem_of_find?_eq_some hd, rfl⟩

theorem ids_perm (sources : List TableSource) :
    (sources.flatMap sourceIds).Perm
      ((sources.map (·.table)).map (·.id) ++ (sources.map (·.table)).flatMap fun t => t.columns.map (·.id)) := by
  have hids : (sources.map (·.table)).map (·.id) = sources.flatMap fun s => [s.table.id] := by
    rw [List.map_map, List.map_eq_flatMap]
    rfl
  rw [hids, List.flatMap_map]
  exact (List.flatMap_append_perm sources _ _).symm.trans List.perm_append_comm

variable {serial next : Nat} {vs : List Value} {s : Schema}

theorem exists_isSource (h : Schema.ofStatements serial vs = .ok (s, next)) {t : Table} (ht : t ∈ s.tables) :
    ∃ src, IsSource src ∧ src.table = t := by
  obtain ⟨sources, middle, hsources, htables, -⟩ := ofStatements_eq_ok h
  obtain ⟨src, hsrc, rfl⟩ := List.mem_map.mp (htables ▸ ht)
  exact ⟨src, ((sourcesFrom_found hsources).isSource src hsrc).resolve_left nofun, rfl⟩

theorem exists_isRelationOf (h : Schema.ofStatements serial vs = .ok (s, next)) {r : Relation}
    (hr : r ∈ s.relations) :
    ∃ sources key, s.tables = sources.map (·.table) ∧ key.1 ∈ sources ∧ IsRelationOf sources key r := by
  obtain ⟨sources, middle, -, htables, hrepresented⟩ := ofStatements_eq_ok h
  obtain ⟨before, key, after, hkeys, hkey, -⟩ := hrepresented.first r hr
  have hmem : key ∈ foreignKeys sources vs := by simp [hkeys]
  exact ⟨sources, key, htables, mem_sources_of_mem_foreignKeys hmem, hkey⟩

theorem nodup_tableNames (h : Schema.ofStatements serial vs = .ok (s, next)) :
    (s.tables.map fun t => Text.lower t.name).Nodup := by
  obtain ⟨sources, middle, hsources, htables, -⟩ := ofStatements_eq_ok h
  rw [htables, List.map_map]
  exact (sourcesFrom_found hsources).names .nil

theorem nodup_ids (h : Schema.ofStatements serial vs = .ok (s, next)) : (s.tableIds ++ s.columnIds).Nodup := by
  obtain ⟨sources, middle, hsources, htables, -⟩ := ofStatements_eq_ok h
  rw [Schema.tableIds, Schema.columnIds, htables, ← (ids_perm sources).nodup_iff]
  exact nodup_sourceIds hsources

theorem mem_of_action (h : Schema.ofStatements serial vs = .ok (s, next)) {r : Relation} (hr : r ∈ s.relations)
    {a : Option String} (ha : a = r.onDelete ∨ a = r.onUpdate) :
    a ∈ [some "CASCADE", some "SET NULL", some "RESTRICT", some "NO ACTION"] := by
  obtain ⟨sources, key, -, -, n, hkey⟩ := exists_isRelationOf h hr
  obtain ⟨c, target, d, -, -, -, rfl⟩ := relation?_eq_some_iff.mp hkey
  rcases ha with rfl | rfl <;> exact actionName_mem _

theorem exists_of_end (h : Schema.ofStatements serial vs = .ok (s, next)) {r : Relation} (hr : r ∈ s.relations)
    {e : Endpoint} (he : e = r.source ∨ e = r.target) :
    ∃ t ∈ s.tables, t.id = e.table ∧ ∃ c ∈ t.columns, c.id = e.column := by
  obtain ⟨sources, key, htables, hkey, hr⟩ := exists_isRelationOf h hr
  rw [htables]
  exact hr.ends_exist hkey he

/-- Whatever the statements are, the schema that is extracted from them is well formed. -/
theorem ofStatements_wellFormed {serial next : Nat} {vs : List Value} {s : Schema}
    (h : Schema.ofStatements serial vs = .ok (s, next)) : s.WellFormed := by
  constructor
  case table_names =>
    intro t ht
    obtain ⟨src, hsrc, rfl⟩ := exists_isSource h ht
    exact hsrc.name_ne_empty
  case table_names_distinct => exact nodup_tableNames h
  case columns_ne_nil =>
    intro t ht
    obtain ⟨src, hsrc, rfl⟩ := exists_isSource h ht
    exact hsrc.columns_ne_nil
  case column_names =>
    intro t ht
    obtain ⟨src, hsrc, rfl⟩ := exists_isSource h ht
    exact hsrc.column_names
  case ids_distinct => exact nodup_ids h
  case keys =>
    intro t ht
    obtain ⟨src, hsrc, rfl⟩ := exists_isSource h ht
    exact hsrc.keyMarked
  case relation_type =>
    intro r hr
    obtain ⟨sources, key, -, -, n, hkey⟩ := exists_isRelationOf h hr
    obtain ⟨c, target, d, -, -, -, rfl⟩ := relation?_eq_some_iff.mp hkey
    rfl
  case relation_actions => exact fun r hr a ha => mem_of_action h hr ha
  case ends_exist => exact fun r hr e he => exists_of_end h hr he
  case connects_once =>
    obtain ⟨sources, middle, -, -, hrepresented⟩ := ofStatements_eq_ok h
    exact hrepresented.once

/-- A table that refers to a table behind it and to one that is not there. -/
def ordersAndUsers : List Value :=
  let column (name type : String) (marks : List (String × Value)) : Value :=
    .record ([("column", .text name), ("definition", .record [("dataType", .text type)])] ++ marks)
  let foreignKey (column target targetColumn : String) : Value :=
    .record [("constraint_type", .text "FOREIGN KEY"), ("definition", .list [.text column]),
      ("reference_definition", .record [("table", .text target),
        ("definition", .list [.text targetColumn]), ("on_delete", .text "cascade")])]
  let create (name : String) (items : List Value) : Value :=
    .record [("type", .text "create"), ("keyword", .text "table"), ("table", .text name),
      ("create_definitions", .list items)]
  [create "orders" [column "owner" "INT" [], foreignKey "owner" "users" "id",
      foreignKey "owner" "shops" "id"],
    create "users" [column "id" "SERIAL" [("primary_key", .bool true)]]]

theorem ordersAndUsers_wellFormed :
    let s : Schema := {
      tables := [
        { id := .fresh 1, name := "orders"
          columns := [{ id := .fresh 0, name := "owner", type := .int }] },
        { id := .fresh 3, name := "users"
          columns := [
            { id := .fresh 2, name := "id", type := .serial, primaryKey := true, nullable := false
              unique := true }] }]
      relations := [{
        id := .fresh 4, sourceTableId := .fresh 1, sourceColumnId := .fresh 0,
        targetTableId := .fresh 3, targetColumnId := .fresh 2, onDelete := some "CASCADE",
        onUpdate := some "NO ACTION" }] }
    Schema.ofStatements 0 ordersAndUsers = .ok (s, 5) ∧ s.WellFormed := by
  intro s
  have hread : Schema.ofStatements 0 ordersAndUsers = .ok (s, 5) := rfl
  exact ⟨hread, ofStatements_wellFormed hread⟩

end Extraction

end SchemaDesk
