import SchemaDesk.Proofs.Ddl.WrittenSchema
import SchemaDesk.Proofs.Reconciliation.Repetition
/-!
Scripts that are read and written again. The first reading may lose what the dialect has no words for; from
then on the script stays as it is.
-/

/-! ### The schemas that are read for written scripts -/

namespace SchemaDesk

open Ddl Sql

namespace Schema

variable {s p : Schema} {d : Dialect} {madeAt : String}

/-- All columns can be read once they are written. -/
def IsReadable (s : Schema) (d : Dialect) : Prop := ∀ t ∈ s.tables, ∀ c ∈ t.columns, c.IsReadable d

/-- The second schema is what is read for the script of the first one: its tables with what the dialect
keeps of them, and its relations by the names of their ends, each pair of columns connected once. -/
structure IsEcho (d : Dialect) (s p : Schema) : Prop where
  tables : p.tables.map (Table.mapIds fun _ => .fresh 0) = s.tables.map (·.echo d)
  ids : (p.tableIds ++ p.columnIds).Nodup
  relations : p.relations.map (Relation.named? p.tables) =
    (NamedRelation.firstOnes (s.namedRelations.map fun n => n.key.relation)).map some

/-! ### Reading a script -/

theorem map_table_creation (hs : s.IsWritable d) :
    (s.tables.map (·.creation d)).map CreateTable.table = s.tables.map (·.echo d) := by
  rw [List.map_map]
  exact List.map_congr_left fun t ht =>
    Table.table_creation (hs.columns t ht) (hs.defaults t ht) (hs.distinct.columnNames t ht)

theorem distinctlyNamed_echo (hs : DistinctlyNamed s.tables) : DistinctlyNamed (s.tables.map (·.echo d)) := by
  constructor
  case tableNames => simpa [List.map_map, Function.comp_def, Table.echo] using hs.tableNames
  case columnNames =>
    intro t ht
    obtain ⟨u, hu, rfl⟩ := List.mem_map.mp ht
    simpa [List.map_map, Function.comp_def, Table.echo, Column.echo] using hs.columnNames u hu

theorem hasColumn_echo {e : Endpoint} {t : Table} {c : Column} (h : e.find? s.tables = some (t, c)) :
    HasColumn (s.tables.map (·.echo d)) t.name c.name := by
  obtain ⟨ht, -, hc, -⟩ := Endpoint.mem_of_find? h
  exact ⟨t.echo d, List.mem_map_of_mem ht, rfl, _, List.mem_map_of_mem hc, rfl⟩

theorem hasEnds_key {n : NamedRelation} (hn : n ∈ s.namedRelations) :
    n.key.HasEnds (s.tables.map (·.echo d)) := by
  obtain ⟨r, -, hr⟩ := List.mem_filterMap.mp hn
  obtain ⟨e, he, rfl⟩ := Option.map_eq_some_iff.mp hr
  obtain ⟨hsource, htarget⟩ := Relation.ends?_eq_some_iff.mp he
  exact ⟨hasColumn_echo hsource, hasColumn_echo htarget⟩

theorem definitions_creation_ne_nil (hs : s.IsLegible d) : ∀ x ∈ s.tables.map (·.creation d), x.definitions ≠ [] := by
  rw [List.forall_mem_map]
  intro t ht
  rw [Table.definitions_creation (hs.columns t ht), ne_eq, List.map_eq_nil_iff]
  exact hs.columns t ht

/-- A script is read if all columns are. -/
theorem exists_echo (hs : s.IsWritable d) (hat : IsStamp madeAt) (hread : s.IsReadable d) (serial : Nat) :
    ∃ p next, Reading.ofScript serial (s.script d madeAt) d = .ok (.schema p, next) ∧ s.IsEcho d p := by
  have hcreations : ∀ x ∈ s.tables.map (·.creation d), x.IsRead d := by
    rw [List.forall_mem_map]
    exact fun t ht => Table.isRead_creation (hs.columns t ht) (hread t ht)
  have hends : ∀ k ∈ s.namedRelations.map NamedRelation.key,
      k.HasEnds ((s.tables.map (·.creation d)).map CreateTable.table) := by
    rw [List.forall_mem_map, map_table_creation hs]
    exact fun n hn => hasEnds_key hn
  obtain ⟨p, next, hp, htables, hids, hrelations⟩ :=
    Page.ofScript_eq (isValid_page hs.toIsLegible hat) (definitions_page s d madeAt) hcreations (definitions_creation_ne_nil hs.toIsLegible)
      (by rw [map_table_creation hs]; exact distinctlyNamed_echo hs.distinct) hends
      (script_eq hs.toIsLegible hat ▸ script_ne_blank s d madeAt) serial
  rw [← script_eq hs.toIsLegible hat] at hp
  rw [map_table_creation hs] at htables
  rw [List.map_map] at hrelations
  exact ⟨p, next, hp, htables, hids, hrelations⟩

/-- A script is read only if all columns are. -/
theorem isReadable_of_ofScript (hs : s.IsLegible d) (hat : IsStamp madeAt) {serial next : Nat}
    (hp : Reading.ofScript serial (s.script d madeAt) d = .ok (.schema p, next)) : s.IsReadable d := by
  by_contra hnot
  simp only [IsReadable, not_forall] at hnot
  obtain ⟨t, ht, c, hc, hc'⟩ := hnot
  have hcreations : ∀ x ∈ s.tables.map (·.creation d), x.IsRead d ∨ x.IsStuck d := by
    rw [List.forall_mem_map]
    intro u hu
    by_cases hall : ∀ c ∈ u.columns, c.IsReadable d
    · exact Or.inl (Table.isRead_creation (hs.columns u hu) hall)
    · simp only [not_forall] at hall
      obtain ⟨b, hb, hb'⟩ := hall
      exact Or.inr (Table.isStuck_creation (hs.columns u hu) ⟨b, hb, hb'⟩)
  have hstuck : ∃ x ∈ s.tables.map (·.creation d), x.IsStuck d :=
    ⟨_, List.mem_map_of_mem ht, Table.isStuck_creation (hs.columns t ht) ⟨c, hc, hc'⟩⟩
  rw [script_eq hs hat] at hp
  exact Page.ofScript_ne (isValid_page hs hat) (definitions_page s d madeAt) hcreations hstuck
    (script_eq hs hat ▸ script_ne_blank s d madeAt) serial p next hp

theorem isEcho_of_ofScript (hs : s.IsWritable d) (hat : IsStamp madeAt) {serial next : Nat}
    (hp : Reading.ofScript serial (s.script d madeAt) d = .ok (.schema p, next)) : s.IsEcho d p := by
  obtain ⟨p', next', hp', hecho⟩ := exists_echo hs hat (isReadable_of_ofScript hs.toIsLegible hat hp) serial
  obtain ⟨hschema, -⟩ := Prod.mk.inj (Except.ok.inj (hp.symm.trans hp'))
  obtain rfl := Reading.schema.inj hschema
  exact hecho

end Schema

end SchemaDesk

/-! ### Scripts that are written again -/

namespace SchemaDesk

open Ddl Sql

theorem forall₂_of_map_eq {α β γ : Type} {R : α → β → Prop} {f : α → γ} {g : β → γ} {as : List α} {bs : List β}
    (h : bs.map g = as.map f) (hR : ∀ a ∈ as, ∀ b, g b = f a → R a b) : List.Forall₂ R as bs := by
  induction as generalizing bs with
  | nil =>
    obtain rfl := List.map_eq_nil_iff.mp h
    exact .nil
  | cons a as ih =>
    obtain ⟨b, bs, rfl, hb, hbs⟩ := List.map_eq_cons_iff.mp h
    exact .cons (hR a (by simp) b hb) (ih hbs fun a ha => hR a (by simp [ha]))

/-- Of the defaults, MySQL reads no others than `NULL` behind `UNIQUE`. -/
theorem Column.isReadable_of_nonneg {c : Column} {d : Dialect} (hc : c.HasSimpleDefault)
    (hnumbers : c.HasNonnegativeNumbers)
    (hunique : d = .mysql → c.isUniqueAlone = true → ∀ s ∈ c.default, s = "" ∨ s = "NULL") : c.IsReadable d := by
  refine ⟨nonneg_typeWords hnumbers, fun hd hu x hx => ?_⟩
  have hwritten : c.default.filter (· != "") = some x.written := by
    rw [← map_written_literal? hc, Option.mem_def.mp hx, Option.map_some]
  obtain ⟨hdefault, hne⟩ := Option.filter_eq_some_iff.mp hwritten
  have hnull : x.written = "NULL" := (hunique hd hu _ hdefault).resolve_left (by simpa using hne)
  exact Literal.eq_null_of_written hnull (isValid_literal? x hx)

/-! ### Tables that were read -/

namespace Table

variable {d : Dialect} {t : Table}

theorem hasCompositeKey_echo (t : Table) (d : Dialect) : (t.echo d).hasCompositeKey = t.hasCompositeKey := by
  have hkeys : (t.echo d).keyColumns = t.keyColumns.map (·.echo d t.hasCompositeKey) := by
    rw [keyColumns, echo, List.filter_map]
    rfl
  rw [hasCompositeKey, hkeys, List.length_map]
  rfl

theorem hasCompositeKey_mapIds (f : Id → Id) (t : Table) : (t.mapIds f).hasCompositeKey = t.hasCompositeKey := by
  have hkeys : (t.mapIds f).keyColumns = t.keyColumns.map (Column.mapIds f) := by
    rw [keyColumns, mapIds, List.filter_map]
    rfl
  rw [hasCompositeKey, hkeys, List.length_map]
  rfl

/-- Identifiers are not written. -/
theorem script_mapIds (f : Id → Id) (t : Table) (d : Dialect) : (t.mapIds f).script d = t.script d := by
  have hlines : (t.mapIds f).columns.map (·.line d t.hasCompositeKey) = t.columns.map (·.line d t.hasCompositeKey) := by
    rw [mapIds, List.map_map]
    rfl
  have hkeys : (t.mapIds f).keyNames d = t.keyNames d := by
    rw [keyNames, hasCompositeKey_mapIds, keyNames, mapIds, List.filter_map, List.map_map]
    rfl
  rw [script, bodyLines, keyLines_eq, hasCompositeKey_mapIds, hlines, hkeys, ← keyLines_eq]
  rfl

theorem echo_mapIds (f : Id → Id) (t : Table) (d : Dialect) : (t.mapIds f).echo d = t.echo d := by
  rw [echo, hasCompositeKey_mapIds, mapIds, List.map_map]
  rfl

/-- A table that was read is written as it is when it was read again. -/
theorem script_echo_echo (t : Table) (d : Dialect) : ((t.echo d).echo d).script d = (t.echo d).script d := by
  have hcolumns : ((t.echo d).echo d).columns =
      t.columns.map fun c => (c.echo d t.hasCompositeKey).echo d t.hasCompositeKey := by
    rw [echo, hasCompositeKey_echo, echo, List.map_map]
    rfl
  have hlines : ((t.echo d).echo d).columns.map (·.line d t.hasCompositeKey) =
      (t.echo d).columns.map (·.line d t.hasCompositeKey) := by
    rw [hcolumns, echo, List.map_map, List.map_map]
    exact List.map_congr_left fun c _ => c.line_echo_echo d t.hasCompositeKey
  have hkeys : ((t.echo d).echo d).keyNames d = (t.echo d).keyNames d := by
    have hlisted : ∀ c ∈ t.columns,
        ((c.echo d t.hasCompositeKey).echo d t.hasCompositeKey).isKeyListed d t.hasCompositeKey =
          (c.echo d t.hasCompositeKey).isKeyListed d t.hasCompositeKey := by
      intro c _
      have hserial : ((c.echo d t.hasCompositeKey).echo d t.hasCompositeKey).type.isSerial =
          (c.echo d t.hasCompositeKey).type.isSerial :=
        (c.type.words_echo_echo d (c.primaryKey && !t.hasCompositeKey)).2
      rw [Column.isKeyListed, hserial]
      rfl
    rw [keyNames, hcolumns, hasCompositeKey_echo, hasCompositeKey_echo, keyNames, hasCompositeKey_echo, echo,
      List.filter_map, List.filter_map, List.map_map, List.map_map]
    rw [List.filter_congr (q := (fun c => c.isKeyListed d t.hasCompositeKey) ∘ fun c => c.echo d t.hasCompositeKey) hlisted]
    rfl
  rw [script, bodyLines, keyLines_eq, hasCompositeKey_echo, hasCompositeKey_echo, hlines, hkeys, ← keyLines_eq,
    script, bodyLines, hasCompositeKey_echo]
  rfl

end Table

namespace Schema

variable {s p q : Schema} {d : Dialect} {madeAt : String}

namespace IsEcho

theorem namedRelations_eq (h : s.IsEcho d p) :
    p.namedRelations = NamedRelation.firstOnes (s.namedRelations.map fun n => n.key.relation) := by
  have hfilter : p.namedRelations = (p.relations.map (Relation.named? p.tables)).filterMap id := by
    rw [namedRelations, List.filterMap_map]
    rfl
  rw [hfilter, h.relations, List.filterMap_map]
  simp

/-- What was read is read as it is. -/
theorem namedRelations_again (h : s.IsEcho d p) :
    NamedRelation.firstOnes (p.namedRelations.map fun n => n.key.relation) = p.namedRelations := by
  have hread : ∀ n ∈ p.namedRelations, n.key.relation = n := by
    rw [h.namedRelations_eq]
    intro n hn
    obtain ⟨m, -, rfl⟩ := List.mem_map.mp (NamedRelation.mem_of_mem_firstOnes hn)
    exact NamedRelation.relation_key_relation m.key
  rw [List.map_congr_left (g := id) hread, List.map_id, h.namedRelations_eq]
  exact NamedRelation.firstOnes_eq_self (NamedRelation.pairwise_firstOnes _)

theorem hasKnownActions (h : s.IsEcho d p) : ∀ r ∈ p.relations, r.HasKnownActions := by
  intro r hr
  have hmem : r.named? p.tables ∈ p.relations.map (Relation.named? p.tables) := List.mem_map_of_mem hr
  rw [h.relations] at hmem
  obtain ⟨n, hn, hnamed⟩ := List.mem_map.mp hmem
  obtain ⟨m, -, rfl⟩ := List.mem_map.mp (NamedRelation.mem_of_mem_firstOnes hn)
  obtain ⟨e, -, he⟩ := Option.map_eq_some_iff.mp hnamed.symm
  have hdelete : r.onDelete = some _ := congrArg NamedRelation.onDelete he
  have hupdate : r.onUpdate = some _ := congrArg NamedRelation.onUpdate he
  refine ⟨fun x hx => Or.inr ?_, fun x hx => Or.inr ?_⟩
  · rw [hdelete] at hx
    exact ⟨_, Option.some.inj hx⟩
  · rw [hupdate] at hx
    exact ⟨_, Option.some.inj hx⟩

theorem distinctlyNamed (h : s.IsEcho d p) (hs : DistinctlyNamed s.tables) : DistinctlyNamed p.tables := by
  rw [← distinctlyNamed_mapIds fun _ => .fresh 0, h.tables]
  exact distinctlyNamed_echo hs

/-- Each table of the script is read for a table of the schema. -/
theorem exists_table (h : s.IsEcho d p) {t : Table} (ht : t ∈ p.tables) :
    ∃ u ∈ s.tables, t.mapIds (fun _ => .fresh 0) = u.echo d := by
  obtain ⟨u, hu, hecho⟩ := List.mem_map.mp (h.tables ▸ List.mem_map_of_mem ht :
    t.mapIds (fun _ => .fresh 0) ∈ s.tables.map (·.echo d))
  exact ⟨u, hu, hecho.symm⟩

theorem exists_column (h : s.IsEcho d p) {t : Table} (ht : t ∈ p.tables) {c : Column} (hc : c ∈ t.columns) :
    ∃ u ∈ s.tables, ∃ b ∈ u.columns, c.mapIds (fun _ => .fresh 0) = b.echo d u.hasCompositeKey := by
  obtain ⟨u, hu, hecho⟩ := h.exists_table ht
  have hcolumns : t.columns.map (Column.mapIds fun _ => .fresh 0) = u.columns.map (·.echo d u.hasCompositeKey) :=
    congrArg Table.columns hecho
  obtain ⟨b, hb, hb'⟩ := List.mem_map.mp (hcolumns ▸ List.mem_map_of_mem hc :
    c.mapIds (fun _ => .fresh 0) ∈ u.columns.map (·.echo d u.hasCompositeKey))
  exact ⟨u, hu, b, hb, hb'.symm⟩

/-- What was read can be written again. -/
theorem isWritable (h : s.IsEcho d p) (hs : s.IsWritable d) : p.IsWritable d where
  tableNames t ht := by
    obtain ⟨u, hu, hecho⟩ := h.exists_table ht
    have hname : t.name = u.name := by injection hecho
    exact hname ▸ hs.tableNames u hu
  columnNames t ht c hc := by
    obtain ⟨u, hu, b, hb, hecho⟩ := h.exists_column ht hc
    have hname : c.name = b.name := by injection hecho
    exact hname ▸ hs.columnNames u hu b hb
  distinct := h.distinctlyNamed hs.distinct
  columns t ht := by
    obtain ⟨u, hu, hecho⟩ := h.exists_table ht
    have hcolumns : t.columns.map _ = u.columns.map _ := congrArg Table.columns hecho
    intro hnil
    rw [hnil, List.map_nil, eq_comm, List.map_eq_nil_iff] at hcolumns
    exact hs.columns u hu hcolumns
  defaults t ht c hc := by
    obtain ⟨u, hu, b, hb, hecho⟩ := h.exists_column ht hc
    have hsimple : (c.mapIds fun _ => .fresh 0).HasSimpleDefault :=
      hecho ▸ Column.hasSimpleDefault_echo (hs.defaults u hu b hb)
    exact hsimple
  actions := h.hasKnownActions

theorem isReadable (h : s.IsEcho d p) (hs : s.IsReadable d) : p.IsReadable d := by
  intro t ht c hc
  obtain ⟨u, hu, b, hb, hecho⟩ := h.exists_column ht hc
  have hreadable : (c.mapIds fun _ => .fresh 0).IsReadable d := hecho ▸ Column.isReadable_echo (hs u hu b hb)
  exact ⟨hreadable.1, hreadable.2⟩

/-- The second reading loses nothing. -/
theorem script_eq (h : s.IsEcho d p) (hq : p.IsEcho d q) : q.script d madeAt = p.script d madeAt := by
  have hforget (ts : List Table) : ts.map (·.script d) = (ts.map (Table.mapIds fun _ => .fresh 0)).map (·.script d) := by
    rw [List.map_map]
    exact List.map_congr_left fun t _ => (t.script_mapIds _ d).symm
  have hechoes : p.tables.map (·.echo d) = (s.tables.map (·.echo d)).map (·.echo d) := by
    rw [← h.tables, List.map_map]
    exact List.map_congr_left fun t _ => (t.echo_mapIds _ d).symm
  have htables : q.tables.map (·.script d) = p.tables.map (·.script d) := by
    rw [hforget, hq.tables, hechoes, hforget p.tables, h.tables, List.map_map, List.map_map, List.map_map]
    exact List.map_congr_left fun t _ => t.script_echo_echo d
  have hnamed : q.namedRelations = p.namedRelations := hq.namedRelations_eq.trans h.namedRelations_again
  have hkeys : q.foreignKeys = p.foreignKeys := by
    rw [foreignKeys_eq hq.hasKnownActions, foreignKeys_eq h.hasKnownActions, hnamed]
  have hrelations : q.relations.isEmpty = p.relations.isEmpty := by
    have hlength (r : Schema) (s : Schema) (h : s.IsEcho d r) : r.relations.length = r.namedRelations.length := by
      have hcount := congrArg List.length h.relations
      rw [List.length_map, List.length_map] at hcount
      rw [h.namedRelations_eq, hcount]
    rw [Bool.eq_iff_iff, List.isEmpty_iff_length_eq_zero, List.isEmpty_iff_length_eq_zero, hlength q p hq,
      hlength p s h, hnamed]
  have hempty : q.tables.isEmpty = p.tables.isEmpty := by
    have hcount := congrArg List.length htables
    rw [List.length_map, List.length_map] at hcount
    rw [Bool.eq_iff_iff, List.isEmpty_iff_length_eq_zero, List.isEmpty_iff_length_eq_zero, hcount]
  have hlines : q.tableLines d = p.tableLines d := by
    have hflat (ts : List Table) : (ts.flatMap fun t => [t.script d, ""]) =
        (ts.map (·.script d)).flatMap fun x => [x, ""] := by rw [List.flatMap_map]
    rw [tableLines, tableLines, hempty, hflat, hflat, htables]
  rw [script, script, hlines, relationLines, relationLines, hrelations, hkeys]

end IsEcho

/-- Users and their posts. -/
def blog : Schema :=
  { tables := [
      { id := .named "u", name := "users", color := "#ff0000", columns := [
          { id := .named "u1", name := "id", type := .serial, primaryKey := true, nullable := false, unique := true },
          { id := .named "u2", name := "email", type := .varchar, nullable := false, unique := true, length := some 255 },
          { id := .named "u3", name := "active", type := .boolean, default := some "TRUE" }] },
      { id := .named "p", name := "posts", columns := [
          { id := .named "p1", name := "author_id", type := .integer, nullable := false },
          { id := .named "p2", name := "title", type := .text, default := some "'it''s new'" }] }]
    relations := [
      { id := .named "r", sourceTableId := .named "p", sourceColumnId := .named "p1", targetTableId := .named "u"
        targetColumnId := .named "u1", onDelete := some "CASCADE" }] }

theorem isWritable_blog (d : Dialect) : blog.IsWritable d where
  tableNames := by cases d <;> decide +kernel
  columnNames := by cases d <;> decide +kernel
  distinct := ⟨by decide +kernel, by decide +kernel⟩
  columns := by decide
  defaults := by
    have htrue : ∃ x : Literal, x.IsValid ∧ x.written = "TRUE" := ⟨.bool true, trivial, rfl⟩
    have htext : ∃ x : Literal, x.IsValid ∧ x.written = "'it''s new'" :=
      ⟨.text "it's new".toList, by show '\\' ∉ "it's new".toList; decide, by decide⟩
    simp [blog, Column.HasSimpleDefault, htrue, htext]
  actions := by
    simp only [blog, List.forall_mem_singleton]
    exact ⟨fun _ h => Or.inr ⟨.cascade, Option.some.inj h⟩, fun _ h => Or.inr ⟨.noAction, Option.some.inj h⟩⟩

theorem isReadable_blog (d : Dialect) : blog.IsReadable d := by
  have hall : ∀ t ∈ blog.tables, ∀ c ∈ t.columns, c.HasNonnegativeNumbers ∧
      (c.isUniqueAlone = true → ∀ s ∈ c.default, s = "" ∨ s = "NULL") := by
    simp [blog, Column.HasNonnegativeNumbers, Column.isUniqueAlone]
  intro t ht c hc
  obtain ⟨hnumbers, hunique⟩ := hall t ht c hc
  exact Column.isReadable_of_nonneg ((isWritable_blog d).defaults t ht c hc) hnumbers fun _ => hunique

theorem isStamp_t : IsStamp "T" := ⟨by decide, by decide⟩

/-- PostgreSQL has words for all that there is, and each pair of columns is connected at most once. -/
structure IsExact (s : Schema) : Prop where
  columns : ∀ t ∈ s.tables, ∀ c ∈ t.columns, c.IsExact
  kinds : ∀ r ∈ s.relations, r.type = .oneToMany
  ends : ∀ r ∈ s.relations, (r.ends? s.tables).isSome
  deletions : ∀ r ∈ s.relations, ∃ a : ReferentialAction, r.onDelete = some a.name
  updates : ∀ r ∈ s.relations, ∃ a : ReferentialAction, r.onUpdate = some a.name
  pairs : s.relations.Pairwise fun r q => r.sameEndpoints q = false

theorem map_named?_of_ends (h : ∀ r ∈ s.relations, (r.ends? s.tables).isSome) :
    s.relations.map (Relation.named? s.tables) = s.namedRelations.map some := by
  have hall : ∀ rs : List Relation, (∀ r ∈ rs, (r.ends? s.tables).isSome) →
      rs.map (Relation.named? s.tables) = (rs.filterMap (Relation.named? s.tables)).map some := by
    intro rs hrs
    induction rs with
    | nil => rfl
    | cons r rs ih =>
      obtain ⟨e, he⟩ := Option.isSome_iff_exists.mp (hrs r (by simp))
      have hr : r.named? s.tables = some _ := congrArg (Option.map _) he
      rw [List.map_cons, List.filterMap_cons_some hr, List.map_cons, hr, ih fun q hq => hrs q (by simp [hq])]
  exact hall s.relations h

/-- Different pairs of columns have different names. -/
theorem pairwise_namedRelations (hnames : DistinctlyNamed s.tables)
    (h : s.relations.Pairwise fun r q => r.sameEndpoints q = false) :
    s.namedRelations.Pairwise fun n m => n.connects m = false := by
  rw [namedRelations, List.pairwise_filterMap]
  exact h.imp fun hrq n hn m hm => hnames.sameEndpoints_eq hn hm ▸ hrq

theorem IsExact.key_relation (h : s.IsExact) : ∀ n ∈ s.namedRelations, n.key.relation = n := by
  intro n hn
  obtain ⟨r, hr, hnamed⟩ := List.mem_filterMap.mp hn
  obtain ⟨e, -, rfl⟩ := Option.map_eq_some_iff.mp hnamed
  obtain ⟨a, ha⟩ := h.deletions r hr
  obtain ⟨b, hb⟩ := h.updates r hr
  simp [NamedRelation.key, AddKey.relation, ha, hb, h.kinds r hr, ReferentialAction.named?_name]

theorem IsExact.isReadable (h : s.IsExact) : s.IsReadable .postgresql := fun t ht c hc =>
  ⟨(Column.typeNumbers_of_isExact (h.columns t ht c hc)).2, nofun⟩

theorem IsExact.sameContent (h : s.IsExact) (hecho : s.IsEcho .postgresql p) :
    List.Forall₂ Reconciliation.SameContent s.tables p.tables := by
  refine forall₂_of_map_eq hecho.tables fun t ht u hu => ?_
  have hname : u.name = t.name := by injection hu
  have hcolumns : u.columns.map (Column.mapIds fun _ => .fresh 0) =
      t.columns.map (·.echo .postgresql t.hasCompositeKey) := congrArg Table.columns hu
  refine ⟨hname, forall₂_of_map_eq hcolumns fun c hc b hb => ?_⟩
  rw [Column.echo_of_isExact (h.columns t ht c hc)] at hb
  have hback : b = { b.mapIds (fun _ => .fresh 0) with id := b.id } := rfl
  rw [hb] at hback
  exact hback

theorem isExact_blog : blog.IsExact where
  columns := by
    intro t ht c hc
    simp only [blog, List.mem_cons, List.not_mem_nil, or_false] at ht
    rcases ht with rfl | rfl <;> simp only [List.mem_cons, List.not_mem_nil, or_false] at hc
    · rcases hc with rfl | rfl | rfl <;> constructor <;> simp [Column.HasExactNumbers, ColumnType.isSerial]
    · rcases hc with rfl | rfl <;> constructor <;> simp [Column.HasExactNumbers, ColumnType.isSerial]
  kinds := by decide
  ends := by decide
  deletions := by simpa [blog] using ⟨.cascade, rfl⟩
  updates := by simp [blog]
  pairs := by decide

end Schema

end SchemaDesk
