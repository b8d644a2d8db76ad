import SchemaDesk.Proofs.Extraction.Unique

/-!
Where the relations of references start that stand with a column. Their columns are found by name again, so that such a
relation starts at its own column only if no column in front of that has the same name in other letters.
-/

namespace SchemaDesk.Extraction

/-- The relation is the one that the reference asks for which stands with the column at the place. -/
def IsInlineOf (sources : List TableSource) (source : TableSource) (statement : Value) (i : Nat) (q : Relation) :
    Prop :=
  ∃ item d r, (columnItems statement)[i]? = some item ∧ definition? item = some d ∧ d.reference = some r ∧
    IsRelationOf sources (source, inlineKey (d.name, r)) q

/-- The relations of references that stand with columns start at these columns. -/
def StartsAtOwnColumns (sources : List TableSource) (source : TableSource) (statement : Value) : Prop :=
  ∀ i q, IsInlineOf sources source statement i q → ∀ c, source.table.columns[i]? = some c → q.sourceColumnId = c.id

/-- No column in front of the place has the same name, whatever the letter case. -/
def IsFirstOfItsName (cs : List Column) (i : Nat) : Prop :=
  ∀ j < i, ∀ b c, cs[j]? = some b → cs[i]? = some c → Text.sameName b.name c.name = false

theorem place_eq_iff {cs : List Column} {i : Nat} {c : Column} (hc : cs[i]? = some c) :
    place cs c.name = i ↔ IsFirstOfItsName cs i := by
  obtain ⟨hi, rfl⟩ := List.getElem?_eq_some_iff.mp hc
  rw [place, List.findIdx_eq hi, and_iff_right (by simp [Text.sameName])]
  constructor
  · intro h j hj b c hb hc
    obtain ⟨hj', rfl⟩ := List.getElem?_eq_some_iff.mp hb
    obtain rfl : cs[i] = c := Option.some.inj ((List.getElem?_eq_getElem hi).symm.trans hc)
    exact h j hj
  · exact fun h j hj => h j hj _ _ (List.getElem?_eq_getElem _) hc

theorem inline_of_source? {serial next : Nat} {name : String} {v : Value} {s : TableSource}
    (h : source? serial name v = .ok (some (s, next))) {ds : List ColumnDefinition}
    (hds : definitions (columnDescriptions v) = .ok ds) :
    s.inline = ds.filterMap fun d => d.reference.map fun r => (d.name, r) := by
  simp only [source?, hds, Except.map, Except.ok.injEq] at h
  split at h
  · cases h
  · obtain ⟨rfl, -⟩ := Prod.mk.inj (Option.some.inj h)
    rfl

/-- Each reference that stands with a column counts as a foreign key. -/
theorem IsSourceOf.mem_foreignKeys {before vs : List Value} {v : Value} {s : TableSource} {sources : List TableSource}
    (h : IsSourceOf before v s) (hs : s ∈ sources) {i : Nat} {item : Value} {d : ColumnDefinition} {r : ColumnReference}
    (hitem : (columnItems v)[i]? = some item) (hd : definition? item = some d) (hr : d.reference = some r) :
    (s, inlineKey (d.name, r)) ∈ foreignKeys sources vs := by
  obtain ⟨n, m, hsource⟩ := h.source_eq
  obtain ⟨ds, hdefinitions, -⟩ := exists_of_source? hsource
  obtain ⟨e, he, hdefinition⟩ := exists_getElem?_of_forall₂ (forall₂_definitions hdefinitions) hitem
  obtain rfl : d = e := Option.some.inj (hd.symm.trans hdefinition)
  have hinline : (d.name, r) ∈ s.inline := by
    rw [inline_of_source? hsource hdefinitions]
    exact List.mem_filterMap.mpr ⟨d, List.mem_of_getElem? he, by rw [hr]; rfl⟩
  refine List.mem_append_left _ (List.mem_flatMap.mpr ⟨s, hs, List.mem_map_of_mem ?_⟩)
  exact List.mem_append_right _ (List.mem_map_of_mem hinline)

/-- The relation of a reference starts at the first column of the name. -/
theorem IsInlineOf.exists_first {before : List Value} {v : Value} {s : TableSource} {sources : List TableSource}
    (h : IsSourceOf before v s) {i : Nat} {q : Relation} (hq : IsInlineOf sources s v i q) {c : Column}
    (hc : s.table.columns[i]? = some c) :
    ∃ b, s.table.columns[place s.table.columns c.name]? = some b ∧ q.sourceColumnId = b.id := by
  obtain ⟨item, d, r, hitem, hd, -, serial, hrelation⟩ := hq
  obtain ⟨b, target, e, hb, -, -, rfl⟩ := relation?_eq_some_iff.mp hrelation
  obtain ⟨-, hcolumns⟩ := h.isTakenFrom.columns
  obtain ⟨d', hd', hdescribed⟩ := hcolumns i item c hitem hc
  obtain rfl : d = d' := Option.some.inj (hd.symm.trans hd')
  rw [findColumn?_eq_getElem?] at hb
  exact ⟨b, hdescribed.name_eq ▸ hb, rfl⟩

/-- The references of a table start at their own columns exactly if each of these is the first one of its name. -/
theorem IsSourceOf.starts_iff {before : List Value} {v : Value} {s : TableSource}
    {sources : List TableSource} (h : IsSourceOf before v s) (hids : (s.table.columns.map (·.id)).Nodup) :
    StartsAtOwnColumns sources s v ↔ ∀ i q, IsInlineOf sources s v i q → IsFirstOfItsName s.table.columns i := by
  refine forall₃_congr fun i q hq => ?_
  have hlength : i < s.table.columns.length := by
    obtain ⟨item, -, -, hitem, -⟩ := hq
    rw [← h.isTakenFrom.columns.1]
    exact (List.getElem?_eq_some_iff.mp hitem).1
  obtain ⟨c, hc⟩ : ∃ c, s.table.columns[i]? = some c := ⟨_, List.getElem?_eq_getElem hlength⟩
  obtain ⟨b, hb, hstart⟩ := hq.exists_first h hc
  have hsame : q.sourceColumnId = c.id ↔ place s.table.columns c.name = i := by
    rw [hstart]
    constructor
    · intro hid
      have hplace : place s.table.columns c.name < (s.table.columns.map (·.id)).length := by
        rw [List.length_map]
        exact (List.getElem?_eq_some_iff.mp hb).1
      refine (List.getElem?_inj hplace hids).mp ?_
      rw [List.getElem?_map, List.getElem?_map, hb, hc, Option.map_some, Option.map_some, hid]
    · intro hplace
      rw [hplace] at hb
      rw [Option.some.inj (hb.symm.trans hc)]
  rw [← place_eq_iff hc, ← hsame]
  exact ⟨fun hall => hall c hc, fun hid c' hc' => Option.some.inj (hc.symm.trans hc') ▸ hid⟩

theorem nodup_columnIds {serial next : Nat} {sources : List TableSource} {vs : List Value}
    (h : sourcesFrom serial [] vs = .ok (sources, next)) {s : TableSource} (hs : s ∈ sources) :
    (s.table.columns.map (·.id)).Nodup :=
  ((List.nodup_flatMap.mp (nodup_sourceIds h)).1 s hs).sublist (List.sublist_append_left _ _)

variable {serial next : Nat} {vs : List Value} {s : Schema}

/-- Each reference that stands with a column of a table comes to a relation of the schema if its ends exist. That starts
at the column itself exactly if no column in front of it has the same name in other letters. -/
theorem startsAtOwnColumns_iff (h : Schema.ofStatements serial vs = .ok (s, next)) :
    ∃ sources middle, sourcesFrom serial [] vs = .ok (sources, middle) ∧ s.tables = sources.map (·.table) ∧
      ∀ source ∈ sources, ∃ before v after, vs = before ++ v :: after ∧ IsSourceOf before v source ∧
        (∀ i q, IsInlineOf sources source v i q → ∃ r ∈ s.relations, r.Connects q) ∧
        (StartsAtOwnColumns sources source v ↔
          ∀ i q, IsInlineOf sources source v i q → IsFirstOfItsName source.table.columns i) := by
  obtain ⟨sources, middle, hsources, htables, hrepresented⟩ := ofStatements_eq_ok h
  refine ⟨sources, middle, hsources, htables, fun source hsource => ?_⟩
  obtain ⟨-, before, v, after, hvs, hv⟩ := (exists_statement_of_mem hsources hsource).resolve_left nofun
  refine ⟨before, v, after, hvs, hv, ?_, hv.starts_iff (nodup_columnIds hsources hsource)⟩
  rintro i q ⟨item, d, r, hitem, hd, hr, hq⟩
  exact hrepresented.each _ (hv.mem_foreignKeys hsource hitem hd hr) q hq

/-- A statement that creates a table of integer columns, each with what else is said of it. -/
def integerTable (name : String) (columns : List (String × List (String × Value))) : Value :=
  .record [("type", .text "create"), ("keyword", .text "table"), ("table", .text name),
    ("create_definitions", .list <| columns.map fun c => .record
      ([("column", .text c.1), ("definition", .record [("dataType", .text "INT")])] ++ c.2))]

def toUsers : List (String × Value) :=
  [("reference_definition", .record [("table", .text "users"), ("definition", .list [.text "id"])])]

theorem startsAtOwnColumns_owner :
    let vs := [integerTable "users" [("id", [])], integerTable "orders" [("id", []), ("owner", toUsers)]]
    let s : Schema := {
      tables := [
        { id := .fresh 1, name := "users", columns := [{ id := .fresh 0, name := "id", type := .int }] },
        { id := .fresh 4, name := "orders", columns := [
            { id := .fresh 2, name := "id", type := .int }, { id := .fresh 3, name := "owner", type := .int }] }]
      relations := [{
        id := .fresh 5, sourceTableId := .fresh 4, sourceColumnId := .fresh 3, targetTableId := .fresh 1
        targetColumnId := .fresh 0, onDelete := some "NO ACTION", onUpdate := some "NO ACTION" }] }
    Schema.ofStatements 0 vs = .ok (s, 6) ∧
      ∃ sources middle, sourcesFrom 0 [] vs = .ok (sources, middle) ∧ s.tables = sources.map (·.table) ∧
        ∀ source ∈ sources, ∃ before v after, vs = before ++ v :: after ∧ IsSourceOf before v source ∧
          (∀ i q, IsInlineOf sources source v i q → ∃ r ∈ s.relations, r.Connects q) ∧
          (StartsAtOwnColumns sources source v ↔
            ∀ i q, IsInlineOf sources source v i q → IsFirstOfItsName source.table.columns i) := by
  intro vs s
  have hread : Schema.ofStatements 0 vs = .ok (s, 6) := rfl
  exact ⟨hread, startsAtOwnColumns_iff hread⟩

/-- Behind a column `a`, the reference of a column `A` starts at `a`. -/
theorem not_startsAtOwnColumns_upper :
    let v := integerTable "orders" [("a", []), ("A", toUsers)]
    let vs := [integerTable "users" [("id", [])], v]
    let users : TableSource :=
      { table := { id := .fresh 1, name := "users", columns := [{ id := .fresh 0, name := "id", type := .int }] }
        constraints := [], inline := [] }
    let orders : TableSource :=
      { table := { id := .fresh 4, name := "orders", columns := [
          { id := .fresh 2, name := "a", type := .int }, { id := .fresh 3, name := "A", type := .int }] }
        constraints := [], inline := [("A", { table := "users", column := "id" })] }
    let r : Relation := {
      id := .fresh 5, sourceTableId := .fresh 4, sourceColumnId := .fresh 2, targetTableId := .fresh 1
      targetColumnId := .fresh 0, onDelete := some "NO ACTION", onUpdate := some "NO ACTION" }
    sourcesFrom 0 [] vs = .ok ([users, orders], 5) ∧
      Schema.ofStatements 0 vs = .ok ({ tables := [users.table, orders.table], relations := [r] }, 6) ∧
      IsInlineOf [users, orders] orders v 1 r ∧ ¬ StartsAtOwnColumns [users, orders] orders v := by
  intro v vs users orders r
  let reference : ColumnReference := { table := "users", column := "id" }
  have hrelation : relation? [users, orders] 5 orders (inlineKey ("A", reference)) = some r := by decide
  have hinline : IsInlineOf [users, orders] orders v 1 r := ⟨_, _, reference, rfl, rfl, rfl, 5, hrelation⟩
  exact ⟨rfl, rfl, hinline, fun hown => nomatch hown 1 r hinline _ rfl⟩

end SchemaDesk.Extraction
