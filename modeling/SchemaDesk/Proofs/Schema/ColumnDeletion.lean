import SchemaDesk.Proofs.Schema.InPlace
import SchemaDesk.Proofs.Schema.Linked
/-!
Deletion of a column. A column is known by its table and its own identifier, and two tables may have columns of the
same identifier. The editor takes the column away from the one table, but it looks for the relations of the column by
its identifier alone.
-/

namespace SchemaDesk

/-- The relation starts or ends at the column. -/
def Relation.RefersTo (r : Relation) (e : Endpoint) : Prop := r.source = e ∨ r.target = e

instance (r : Relation) (e : Endpoint) : Decidable (r.RefersTo e) :=
  inferInstanceAs (Decidable (r.source = e ∨ r.target = e))

/-- With distinct identifiers, an exchange changes the element of the identifier and keeps the others. -/
theorem Exchanges.eq_map {α : Type} {idOf : α → Id} {id : Id} {x : α} {f : α → α} {xs ys : List α}
    (h : Exchanges idOf id x (f x) xs ys) (hids : (xs.map idOf).Nodup) :
    ys = xs.map fun a => if idOf a = id then f a else a := by
  obtain ⟨before, after, rfl, hbefore, hid, rfl⟩ := h
  have hafter : ∀ a ∈ after, idOf a ≠ id := by
    intro a ha heq
    rw [List.map_append, List.map_cons] at hids
    have hnew : idOf x ∉ after.map idOf := (List.nodup_cons.mp hids.of_append_right).1
    exact hnew (List.mem_map.mpr ⟨a, ha, heq.trans hid.symm⟩)
  have hkept : ∀ {as : List α}, (∀ a ∈ as, idOf a ≠ id) → (as.map fun a => if idOf a = id then f a else a) = as := by
    intro as has
    exact (List.map_congr_left fun a ha => if_neg (has a ha)).trans (List.map_id as)
  rw [List.map_append, List.map_cons, hkept hbefore, hkept hafter, if_pos hid]

/-- The table without its columns of an identifier. -/
def Table.without (t : Table) (columnId : Id) : Table :=
  { t with columns := t.columns.filter fun c => c.id != columnId }

namespace Schema

variable {s u : Schema} {tableId columnId : Id}

/-- One schema is the other one without a column: the table loses it, the other tables stay, and so do the relations
that do not refer to it. -/
structure LosesColumn (s : Schema) (tableId columnId : Id) (u : Schema) : Prop where
  tables : u.tables = s.tables.map fun t => if t.id = tableId then t.without columnId else t
  relations : u.relations = s.relations.filter fun r => ¬ r.RefersTo ⟨tableId, columnId⟩

theorem without_eq_self {t : Table} (h : ∀ c ∈ t.columns, c.id ≠ columnId) : t.without columnId = t := by
  rw [Table.without, List.filter_eq_self.mpr fun c hc => bne_iff_ne.mpr (h c hc)]

/-- Nothing is lost where there is no such column and no relation that refers to it. -/
theorem LosesColumn.eq_self (h : s.LosesColumn tableId columnId u)
    (hcolumn : ∀ t ∈ s.tables, t.id = tableId → ∀ c ∈ t.columns, c.id ≠ columnId)
    (hrelation : ∀ r ∈ s.relations, ¬ r.RefersTo ⟨tableId, columnId⟩) : u = s := by
  have htables : u.tables = s.tables := by
    rw [h.tables]
    refine (List.map_congr_left fun t ht => ?_).trans (List.map_id s.tables)
    split
    · next hid => exact without_eq_self (hcolumn t ht hid)
    · rfl
  have hrelations : u.relations = s.relations := by
    rw [h.relations, List.filter_eq_self.mpr fun r hr => decide_eq_true (hrelation r hr)]
  cases u
  cases s
  exact congrArg₂ Schema.mk htables hrelations

/-- Where the relations are linked and no two columns have the same identifier, a relation with an end of a column's
identifier refers to that column. -/
theorem refersTo_of_touchesColumn (hlinked : s.Linked)
    (hcolumns : (s.tables.flatMap fun t => t.columns.map (·.id)).Nodup) {t : Table} {c : Column} (ht : t ∈ s.tables)
    (hc : c ∈ t.columns) {r : Relation} (hr : r ∈ s.relations) (htouches : r.touchesColumn c.id = true) :
    r.RefersTo ⟨t.id, c.id⟩ := by
  have : Std.Symm (Function.onFun List.Disjoint fun t : Table => t.columns.map (·.id)) :=
    ⟨fun _ _ h => List.disjoint_symm h⟩
  have hend : ∀ e ∈ [r.source, r.target], e.column = c.id → e = ⟨t.id, c.id⟩ := by
    intro e he hcolumn
    obtain ⟨v, hv, hvid, d, hd, hdid⟩ := hlinked.relations r hr e he
    have hsame : v = t := by
      by_contra hne
      have hapart := (List.nodup_flatMap.mp hcolumns).2.forall hv ht hne
      exact hapart (List.mem_map.mpr ⟨d, hd, hdid.trans hcolumn⟩) (List.mem_map.mpr ⟨c, hc, rfl⟩)
    rw [← hsame, hvid, ← hcolumn]
  rcases Bool.or_eq_true_iff.mp htouches with hsource | htarget
  · exact Or.inl (hend r.source (by simp) (beq_iff_eq.mp hsource))
  · exact Or.inr (hend r.target (by simp) (beq_iff_eq.mp htarget))

theorem touchesColumn_of_refersTo {r : Relation} (h : r.RefersTo ⟨tableId, columnId⟩) :
    r.touchesColumn columnId = true := by
  rcases h with h | h
  · exact Bool.or_eq_true_iff.mpr (Or.inl (beq_iff_eq.mpr (congrArg Endpoint.column h)))
  · exact Bool.or_eq_true_iff.mpr (Or.inr (beq_iff_eq.mpr (congrArg Endpoint.column h)))

theorem tables_deleteColumn {t : Table} (hids : s.tableIds.Nodup) (ht : s.table? tableId = some t) :
    (s.deleteColumn tableId columnId).tables =
      s.tables.map fun t => if t.id = tableId then t.without columnId else t := by
  have hexchange : Exchanges Table.id tableId t (t.without columnId) s.tables
      (s.setTable (t.without columnId)).tables := exchanges_setTable ht rfl
  rw [← hexchange.eq_map hids, deleteColumn, ht]
  rfl

theorem relations_deleteColumn {t : Table} (ht : s.table? tableId = some t) :
    (s.deleteColumn tableId columnId).relations = s.relations.filter fun r => !r.touchesColumn columnId := by
  rw [deleteColumn, ht]
  rfl

/-- An unknown table changes nothing. Otherwise the table loses the column, and the relations that refer to the column
are gone; no other relation is lost exactly if each relation with an end of that identifier refers to that column. -/
theorem deleteColumn_losesColumn_iff (hids : s.tableIds.Nodup) (tableId columnId : Id) :
    (tableId ∉ s.tableIds → Editor.deleteColumn tableId columnId s = .ok () s) ∧
    (tableId ∈ s.tableIds → ∃ u, Editor.deleteColumn tableId columnId s = .ok () u ∧
      (u.tables = s.tables.map fun t => if t.id = tableId then t.without columnId else t) ∧
      u.relations.Sublist s.relations ∧ (∀ r ∈ u.relations, ¬ r.RefersTo ⟨tableId, columnId⟩) ∧
      (s.LosesColumn tableId columnId u ↔
        ∀ r ∈ s.relations, r.touchesColumn columnId = true → r.RefersTo ⟨tableId, columnId⟩)) := by
  rw [run_deleteColumn]
  constructor
  · intro hunknown
    have hmissing : s.table? tableId = none :=
      List.find?_eq_none.mpr fun t ht hid => hunknown (List.mem_map.mpr ⟨t, ht, beq_iff_eq.mp hid⟩)
    rw [deleteColumn, hmissing]
  · intro hknown
    obtain ⟨t, ht⟩ : ∃ t, s.table? tableId = some t := by
      obtain ⟨t, ht, hid⟩ := List.mem_map.mp hknown
      exact Option.isSome_iff_exists.mp (List.find?_isSome.mpr ⟨t, ht, beq_iff_eq.mpr hid⟩)
    have hkept : ∀ r ∈ (s.deleteColumn tableId columnId).relations, ¬ r.RefersTo ⟨tableId, columnId⟩ := by
      intro r hr hrefers
      rw [relations_deleteColumn ht] at hr
      have htouches : (!r.touchesColumn columnId) = true := (List.mem_filter.mp hr).2
      rw [touchesColumn_of_refersTo hrefers] at htouches
      cases htouches
    refine ⟨_, rfl, tables_deleteColumn hids ht, relations_deleteColumn_sublist s tableId columnId, hkept, ?_⟩
    constructor
    · intro h r hr htouches
      by_contra hrefers
      have hmem : r ∈ (s.deleteColumn tableId columnId).relations := by
        rw [h.relations]
        exact List.mem_filter.mpr ⟨hr, decide_eq_true hrefers⟩
      rw [relations_deleteColumn ht] at hmem
      have hkept : (!r.touchesColumn columnId) = true := (List.mem_filter.mp hmem).2
      rw [htouches] at hkept
      cases hkept
    · intro h
      refine ⟨tables_deleteColumn hids ht, ?_⟩
      rw [relations_deleteColumn ht]
      refine List.filter_congr fun r hr => ?_
      have hsame : r.touchesColumn columnId = true ↔ r.RefersTo ⟨tableId, columnId⟩ :=
        ⟨h r hr, touchesColumn_of_refersTo⟩
      have hkept : (!r.touchesColumn columnId) = true ↔ ¬ r.RefersTo ⟨tableId, columnId⟩ := by
        rw [Bool.not_eq_true', ← Bool.not_eq_true, hsame]
      exact Bool.eq_iff_iff.mpr (hkept.trans decide_eq_true_iff.symm)

/-- Two tables, and a relation within the second one. -/
def neighbours : Schema where
  tables := [{ id := .named "t", name := "t", columns := [{ id := .named "a", name := "a" }] },
    { id := .named "u", name := "u"
      columns := [{ id := .named "b", name := "b" }, { id := .named "c", name := "c" }] }]
  relations := [{ id := .named "r", sourceTableId := .named "u", sourceColumnId := .named "b"
                  targetTableId := .named "u", targetColumnId := .named "c" }]

theorem neighbours_losesColumn : neighbours.tableIds.Nodup ∧ .named "u" ∈ neighbours.tableIds ∧
    ∃ u, Editor.deleteColumn (.named "u") (.named "b") neighbours = .ok () u ∧
      neighbours.LosesColumn (.named "u") (.named "b") u := by
  have hids : neighbours.tableIds.Nodup := by decide
  have hknown : .named "u" ∈ neighbours.tableIds := by decide
  obtain ⟨u, hrun, -, -, -, hloses⟩ :=
    (deleteColumn_losesColumn_iff hids (.named "u") (.named "b")).2 hknown
  exact ⟨hids, hknown, u, hrun, hloses.mpr (by decide)⟩

/-- The first table has no column of that identifier, but the relation in the second one is lost. -/
theorem relation_of_neighbour_lost : neighbours.tableIds.Nodup ∧ .named "t" ∈ neighbours.tableIds ∧
    Editor.deleteColumn (.named "t") (.named "b") neighbours = .ok () { neighbours with relations := [] } ∧
    ¬ neighbours.LosesColumn (.named "t") (.named "b") { neighbours with relations := [] } := by
  refine ⟨by decide, by decide, rfl, fun h => ?_⟩
  have hrelations := h.relations
  exact absurd hrelations (by decide)

end Schema

end SchemaDesk
