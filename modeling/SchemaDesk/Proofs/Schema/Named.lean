import Mathlib.Data.List.Nodup
import SchemaDesk.Ddl.Script
import SchemaDesk.Proofs.Schema.Identifier
/-!
Relations by the names of their ends. In a schema whose tables have different names, and whose tables have
columns of different names, two relations connect the same columns if their ends have the same names.
-/

namespace SchemaDesk

/-- Among items that differ in something, each one is found by that. -/
theorem find?_eq_some_of_nodup {α β : Type} [DecidableEq β] {f : α → β} {as : List α}
    (h : (as.map f).Nodup) {a : α} (ha : a ∈ as) : as.find? (fun b => f b == f a) = some a := by
  induction as with
  | nil => cases ha
  | cons b as ih =>
    rw [List.map_cons, List.nodup_cons] at h
    rcases List.mem_cons.mp ha with rfl | ha
    · exact List.find?_cons_of_pos (by simp)
    · have hne : f b ≠ f a := fun heq => h.1 (heq ▸ List.mem_map_of_mem ha)
      rw [List.find?_cons_of_neg (by simpa using hne)]
      exact ih h.2 ha

/-- The names of the ends of a relation, with its type and its actions. -/
structure NamedRelation where
  table : String
  column : String
  target : String
  targetColumn : String
  type : RelationKind := .oneToMany
  onDelete : Option String
  onUpdate : Option String
  deriving DecidableEq

namespace NamedRelation

/-- Both have the same two ends, in the same or in opposite directions. -/
def connects (n m : NamedRelation) : Bool :=
  ((n.table, n.column) == (m.table, m.column) && (n.target, n.targetColumn) == (m.target, m.targetColumn)) ||
  ((n.table, n.column) == (m.target, m.targetColumn) && (n.target, n.targetColumn) == (m.table, m.column))

/-- Adds a relation at the end, unless its ends are connected already. -/
def addTo (n : NamedRelation) (ns : List NamedRelation) : List NamedRelation :=
  if ns.any (·.connects n) then ns else ns ++ [n]

/-- Of several relations between the same columns the first is kept. -/
def firstOnes (ns : List NamedRelation) : List NamedRelation := ns.foldl (fun kept n => n.addTo kept) []

theorem foldl_addTo_eq_append {ns kept : List NamedRelation}
    (h : (kept ++ ns).Pairwise fun n m => n.connects m = false) :
    ns.foldl (fun kept n => n.addTo kept) kept = kept ++ ns := by
  induction ns generalizing kept with
  | nil => simp
  | cons n ns ih =>
    rw [List.append_cons] at h
    have hnew : kept.any (·.connects n) = false := by
      rw [List.any_eq_false]
      intro m hm
      have hpair := (List.pairwise_append.mp (List.pairwise_append.mp h).1).2.2 m hm n (by simp)
      simp [hpair]
    rw [List.foldl_cons, addTo, hnew, if_neg (by simp), ih h, List.append_cons kept n ns]

theorem firstOnes_eq_self {ns : List NamedRelation} (h : ns.Pairwise fun n m => n.connects m = false) :
    firstOnes ns = ns :=
  @foldl_addTo_eq_append ns [] h

theorem pairwise_addTo {n : NamedRelation} {kept : List NamedRelation}
    (h : kept.Pairwise fun n m => n.connects m = false) :
    (n.addTo kept).Pairwise fun n m => n.connects m = false := by
  rw [addTo]
  split
  · exact h
  · next hnew =>
    rw [Bool.not_eq_true, List.any_eq_false] at hnew
    rw [List.pairwise_append]
    refine ⟨h, List.pairwise_singleton .., fun m hm b hb => ?_⟩
    obtain rfl := List.mem_singleton.mp hb
    exact Bool.eq_false_iff.mpr (hnew m hm)

theorem pairwise_firstOnes (ns : List NamedRelation) :
    (firstOnes ns).Pairwise fun n m => n.connects m = false := by
  have hfold : ∀ kept : List NamedRelation, (kept.Pairwise fun n m => n.connects m = false) →
      (ns.foldl (fun kept n => n.addTo kept) kept).Pairwise fun n m => n.connects m = false := by
    induction ns with
    | nil => exact fun kept h => h
    | cons n ns ih => exact fun kept h => ih _ (pairwise_addTo h)
  exact hfold [] .nil

theorem mem_of_mem_addTo {n m : NamedRelation} {kept : List NamedRelation} (h : n ∈ m.addTo kept) :
    n ∈ kept ∨ n = m := by
  rw [addTo] at h
  split at h
  · exact Or.inl h
  · simpa using h

theorem mem_of_mem_firstOnes {ns : List NamedRelation} {n : NamedRelation} (h : n ∈ firstOnes ns) : n ∈ ns := by
  have hfold : ∀ kept : List NamedRelation, n ∈ ns.foldl (fun kept n => n.addTo kept) kept → n ∈ kept ∨ n ∈ ns := by
    clear h
    induction ns with
    | nil => exact fun kept h => Or.inl h
    | cons m ns ih =>
      intro kept h
      rcases ih _ h with h | h
      · exact (mem_of_mem_addTo h).imp_right fun hm => List.mem_cons.mpr (Or.inl hm)
      · exact Or.inr (List.mem_cons_of_mem _ h)
  exact (hfold [] h).resolve_left List.not_mem_nil

end NamedRelation

/-- The table and the column at an end. -/
def Endpoint.find? (tables : List Table) (e : Endpoint) : Option (Table × Column) := do
  let t ← tables.find? fun t => t.id == e.table
  let c ← t.column? e.column
  return (t, c)

theorem Endpoint.find?_eq_some_iff {tables : List Table} {e : Endpoint} {t : Table} {c : Column} :
    e.find? tables = some (t, c) ↔
      (tables.find? fun t => t.id == e.table) = some t ∧ t.column? e.column = some c := by
  simp only [find?, Option.bind_eq_bind, Option.bind_eq_some_iff, Option.pure_def, Option.some.injEq,
    Prod.mk.injEq]
  exact ⟨fun ⟨t', ht, c', hc, htt, hcc⟩ => ⟨htt ▸ ht, htt ▸ hcc ▸ hc⟩, fun ⟨ht, hc⟩ => ⟨t, ht, c, hc, rfl, rfl⟩⟩

theorem Endpoint.mem_of_find? {tables : List Table} {e : Endpoint} {t : Table} {c : Column}
    (h : e.find? tables = some (t, c)) :
    t ∈ tables ∧ t.id = e.table ∧ c ∈ t.columns ∧ c.id = e.column := by
  obtain ⟨ht, hc⟩ := find?_eq_some_iff.mp h
  exact ⟨List.mem_of_find?_eq_some ht, by simpa using List.find?_some ht, List.mem_of_find?_eq_some hc,
    by simpa using List.find?_some hc⟩

theorem Relation.ends?_eq_some_iff {r : Relation} {tables : List Table} {e : Relation.Ends} :
    r.ends? tables = some e ↔ r.source.find? tables = some (e.sourceTable, e.sourceColumn) ∧
      r.target.find? tables = some (e.targetTable, e.targetColumn) := by
  rw [Endpoint.find?_eq_some_iff, Endpoint.find?_eq_some_iff]
  simp only [ends?, Option.bind_eq_bind, Option.bind_eq_some_iff, Option.pure_def, Option.some.injEq]
  constructor
  · rintro ⟨s, hs, t, ht, c, hc, b, hb, rfl⟩
    exact ⟨⟨hs, hc⟩, ht, hb⟩
  · rintro ⟨⟨hs, hc⟩, ht, hb⟩
    exact ⟨_, hs, _, ht, _, hc, _, hb, rfl⟩

/-- The relation by the names of its ends, if these exist. -/
def Relation.named? (tables : List Table) (r : Relation) : Option NamedRelation :=
  (r.ends? tables).map fun e =>
    { table := e.sourceTable.name
      column := e.sourceColumn.name
      target := e.targetTable.name
      targetColumn := e.targetColumn.name
      type := r.type
      onDelete := r.onDelete
      onUpdate := r.onUpdate }

theorem Relation.named?_eq_some {r : Relation} {tables : List Table} {s t : Table} {c b : Column}
    (hs : r.source.find? tables = some (s, c)) (ht : r.target.find? tables = some (t, b)) :
    r.named? tables = some { table := s.name, column := c.name, target := t.name, targetColumn := b.name
                             type := r.type, onDelete := r.onDelete, onUpdate := r.onUpdate } := by
  rw [named?, (ends?_eq_some_iff (e := ⟨s, c, t, b⟩)).mpr ⟨hs, ht⟩]
  rfl

/-- The tables have different names, and so have the columns of each, whatever the letter case. -/
structure DistinctlyNamed (tables : List Table) : Prop where
  tableNames : (tables.map fun t => Text.lower t.name).Nodup
  columnNames : ∀ t ∈ tables, (t.columns.map fun c => Text.lower c.name).Nodup

theorem distinctlyNamed_mapIds {tables : List Table} (f : Id → Id) :
    DistinctlyNamed (tables.map (Table.mapIds f)) ↔ DistinctlyNamed tables := by
  have hcolumns (t : Table) : ((t.mapIds f).columns.map fun c => Text.lower c.name) =
      t.columns.map fun c => Text.lower c.name := by
    rw [Table.mapIds, List.map_map]
    rfl
  constructor
  · rintro ⟨htables, hall⟩
    refine ⟨by simpa [List.map_map, Function.comp_def, Table.mapIds] using htables, fun t ht => ?_⟩
    rw [← hcolumns]
    exact hall _ (List.mem_map_of_mem ht)
  · rintro ⟨htables, hall⟩
    refine ⟨by simpa [List.map_map, Function.comp_def, Table.mapIds] using htables, fun t ht => ?_⟩
    obtain ⟨u, hu, rfl⟩ := List.mem_map.mp ht
    rw [hcolumns]
    exact hall u hu

/-- Some table of that name has a column of that name. -/
def HasColumn (tables : List Table) (table column : String) : Prop :=
  ∃ t ∈ tables, t.name = table ∧ ∃ c ∈ t.columns, c.name = column

theorem HasColumn.of_mapIds {tables : List Table} {f : Id → Id} {table column : String}
    (h : HasColumn (tables.map (Table.mapIds f)) table column) : HasColumn tables table column := by
  obtain ⟨t, ht, rfl, c, hc, rfl⟩ := h
  obtain ⟨u, hu, rfl⟩ := List.mem_map.mp ht
  obtain ⟨b, hb, rfl⟩ := List.mem_map.mp hc
  exact ⟨u, hu, rfl, b, hb, rfl⟩

namespace DistinctlyNamed

variable {tables : List Table} {r q : Relation} {n m : NamedRelation}

theorem table_eq (h : DistinctlyNamed tables) {t t' : Table} (ht : t ∈ tables) (ht' : t' ∈ tables)
    (hname : t.name = t'.name) : t = t' :=
  List.inj_on_of_nodup_map h.tableNames ht ht' (congrArg Text.lower hname)

theorem column_eq (h : DistinctlyNamed tables) {t : Table} (ht : t ∈ tables) {c c' : Column}
    (hc : c ∈ t.columns) (hc' : c' ∈ t.columns) (hname : c.name = c'.name) : c = c' :=
  List.inj_on_of_nodup_map (h.columnNames t ht) hc hc' (congrArg Text.lower hname)

theorem endpoint_eq_iff (h : DistinctlyNamed tables) {e e' : Endpoint} {t t' : Table} {c c' : Column}
    (he : e.find? tables = some (t, c)) (he' : e'.find? tables = some (t', c')) :
    e = e' ↔ (t.name, c.name) = (t'.name, c'.name) := by
  constructor
  · rintro rfl
    obtain ⟨rfl, rfl⟩ := Prod.mk.inj (Option.some.inj (he.symm.trans he'))
    rfl
  · intro hnames
    obtain ⟨htable, hcolumn⟩ := Prod.mk.inj hnames
    obtain ⟨ht, hid, hc, hcid⟩ := Endpoint.mem_of_find? he
    obtain ⟨ht', hid', hc', hcid'⟩ := Endpoint.mem_of_find? he'
    obtain rfl := h.table_eq ht ht' htable
    obtain rfl := h.column_eq ht hc hc' hcolumn
    cases e
    cases e'
    simp_all

theorem sameEndpoints_eq (h : DistinctlyNamed tables) (hr : r.named? tables = some n)
    (hq : q.named? tables = some m) : r.sameEndpoints q = n.connects m := by
  obtain ⟨e, he, rfl⟩ := Option.map_eq_some_iff.mp hr
  obtain ⟨e', he', rfl⟩ := Option.map_eq_some_iff.mp hq
  obtain ⟨hs, ht⟩ := Relation.ends?_eq_some_iff.mp he
  obtain ⟨hs', ht'⟩ := Relation.ends?_eq_some_iff.mp he'
  rw [Bool.eq_iff_iff]
  simp only [Relation.sameEndpoints, NamedRelation.connects, Bool.or_eq_true, Bool.and_eq_true, beq_iff_eq,
    h.endpoint_eq_iff hs hs', h.endpoint_eq_iff ht ht', h.endpoint_eq_iff hs ht', h.endpoint_eq_iff ht hs']

/-- Relations are added by their ends as they are by the names of these. -/
theorem map_addTo (h : DistinctlyNamed tables) {rs : List Relation} {ns : List NamedRelation}
    (hrs : rs.map (Relation.named? tables) = ns.map some) (hr : r.named? tables = some n) :
    (r.addTo rs).map (Relation.named? tables) = (n.addTo ns).map some := by
  have hexists : ∀ {rs : List Relation} {ns : List NamedRelation},
      rs.map (Relation.named? tables) = ns.map some → r.existsIn rs = ns.any (·.connects n) := by
    intro rs
    induction rs with
    | nil =>
      intro ns hrs
      obtain rfl : ns = [] := by simpa using hrs.symm
      rfl
    | cons q rs ih =>
      intro ns hrs
      obtain ⟨m, ns, rfl, hm, hns⟩ := List.map_eq_cons_iff.mp hrs.symm
      rw [Relation.existsIn, List.any_cons, List.any_cons, h.sameEndpoints_eq hm.symm hr]
      exact congrArg (m.connects n || ·) (ih hns.symm)
  rw [Relation.addTo, NamedRelation.addTo, hexists hrs]
  split
  · exact hrs
  · rw [List.map_append, List.map_append, hrs, List.map_singleton, List.map_singleton, hr]

end DistinctlyNamed

end SchemaDesk
