import SchemaDesk.Proofs.Reading.Schema
import SchemaDesk.Proofs.Reconciliation.Relations
import SchemaDesk.Proofs.Schema.Reorder
import SchemaDesk.Proofs.Schema.Run
import SchemaDesk.Proofs.Schema.Step
import SchemaDesk.Session
/-!
Relations never point to columns that are not there, neither in runs of the editor nor when another schema takes the
place of the edited one. What is deleted takes its relations with it, and no change of a table or of a column changes
an identifier.
-/

namespace SchemaDesk

/-- The table of the end is there, and has its column. -/
def Endpoint.IsIn (tables : List Table) (e : Endpoint) : Prop :=
  ∃ t ∈ tables, t.id = e.table ∧ ∃ c ∈ t.columns, c.id = e.column

/-- Both ends of the relation are there. -/
def Relation.LinkedIn (tables : List Table) (r : Relation) : Prop := ∀ e ∈ [r.source, r.target], e.IsIn tables

instance (tables : List Table) : DecidablePred (Relation.LinkedIn tables) := fun r =>
  inferInstanceAs (Decidable (∀ e ∈ [r.source, r.target], ∃ t ∈ tables, t.id = e.table ∧ ∃ c ∈ t.columns, c.id = e.column))

/-- A new table has a new identifier, the columns are not replaced as a whole, and a relation gets ends that are
there. -/
def Operation.Links (s : Schema) : Operation → Prop
  | .addTable tableId _ _ => tableId ∉ s.tableIds
  | .updateTable _ patch => patch.columns = none
  | .addRelation id patch => ∀ r ∈ (patch.create id).toOption, r.LinkedIn s.tables
  | .updateRelation id patch =>
    ∀ q ∈ s.relations.find? fun q => q.id == id, ∀ r ∈ (patch.apply q).toOption, r.LinkedIn s.tables
  | _ => True

instance (s : Schema) : DecidablePred (Operation.Links s)
  | .addTable tableId _ _ => inferInstanceAs (Decidable (tableId ∉ s.tableIds))
  | .updateTable _ patch => inferInstanceAs (Decidable (patch.columns = none))
  | .addRelation id patch =>
    inferInstanceAs (Decidable (∀ r ∈ (patch.create id).toOption, r.LinkedIn s.tables))
  | .updateRelation id patch =>
    inferInstanceAs (Decidable (∀ q ∈ s.relations.find? fun q => q.id == id,
      ∀ r ∈ (patch.apply q).toOption, r.LinkedIn s.tables))
  | .deleteTable _ | .addColumn .. | .updateColumn .. | .deleteColumn .. | .reorderColumns ..
  | .deleteRelation _ => .isTrue trivial

namespace Schema

/-- No two tables have the same identifier, and the ends of all relations are there. -/
structure Linked (s : Schema) : Prop where
  ids : s.tableIds.Nodup
  relations : ∀ r ∈ s.relations, r.LinkedIn s.tables

instance : DecidablePred Linked := fun s =>
  decidable_of_iff (s.tableIds.Nodup ∧ ∀ r ∈ s.relations, r.LinkedIn s.tables)
    ⟨fun h => ⟨h.1, h.2⟩, fun h => ⟨h.ids, h.relations⟩⟩

end Schema

/-! ### Ends after an exchange -/

theorem Exchanges.mem_or_eq {α : Type} {idOf : α → Id} {id : Id} {x y a : α} {xs ys : List α}
    (h : Exchanges idOf id x y xs ys) (ha : a ∈ xs) : a ∈ ys ∨ a = x := by
  obtain ⟨before, after, rfl, -, -, rfl⟩ := h
  simp only [List.mem_append, List.mem_cons] at ha ⊢
  tauto

namespace Endpoint

variable {e : Endpoint} {tables ts : List Table} {t u : Table} {id : Id}

theorem IsIn.mono (h : e.IsIn tables) (hsub : ∀ t ∈ tables, t.id = e.table → t ∈ ts) : e.IsIn ts := by
  obtain ⟨t, ht, hid, hc⟩ := h
  exact ⟨t, hsub t ht hid, hid, hc⟩

/-- An end is still there if the table in its place has the identifier and the column. -/
theorem IsIn.exchange (h : e.IsIn tables) (htable : Exchanges Table.id id t u tables ts) (hid : u.id = t.id)
    (hcolumns : ∀ c ∈ t.columns, c.id = e.column → ∃ d ∈ u.columns, d.id = c.id) : e.IsIn ts := by
  obtain ⟨v, hv, hvid, c, hc, hcid⟩ := h
  rcases htable.mem_or_eq hv with hv | rfl
  · exact ⟨v, hv, hvid, c, hc, hcid⟩
  · obtain ⟨d, hd, hdid⟩ := hcolumns c hc hcid
    exact ⟨u, htable.mem_right, hid.trans hvid, d, hd, hdid.trans hcid⟩

end Endpoint

namespace Relation

variable {r : Relation} {id : Id}

theorem table_ne_of_mem (h : ¬ r.touchesTable id = true) : ∀ e ∈ [r.source, r.target], e.table ≠ id := by
  simp_all [touchesTable, source, target]

theorem column_ne_of_mem (h : ¬ r.touchesColumn id = true) : ∀ e ∈ [r.source, r.target], e.column ≠ id := by
  simp_all [touchesColumn, source, target]

end Relation

namespace Schema

variable {s t : Schema} {o : Operation} {p : Option Subject}

/-! ### One operation -/

theorem Step.tableIds_nodup (h : s.tableIds.Nodup) (ho : o.Links s) (hstep : s.Step o p t) : t.tableIds.Nodup := by
  have hexchanged {id : Id} {u v : Table} {ts : List Table} (htable : Exchanges Table.id id u v s.tables ts)
      (hid : v.id = u.id) : (ts.map (·.id)).Nodup := by
    rw [htable.map_eq (f := Table.id) hid]
    exact h
  cases hstep with
  | addTable hname ht =>
    subst ht
    rw [tableIds, List.map_append, List.map_singleton, ← List.concat_eq_append]
    exact h.concat ho
  | updateTable hname hpatch htable => exact hexchanged htable (TablePatch.id_of_apply hpatch)
  | deleteTable id => exact h.sublist (List.filter_sublist.map _)
  | addColumn hname hunused hpatch htable => exact hexchanged htable rfl
  | updateColumn hname hpatch hcolumn htable => exact hexchanged htable rfl
  | deleteColumn htable => exact hexchanged htable rfl
  | reorderColumns htable => exact hexchanged htable rfl
  | addRelation hpatch hnew => exact h
  | updateRelation hpatch hrelation => exact h
  | deleteRelation id => exact h

theorem Step.relations_linkedIn (h : ∀ r ∈ s.relations, r.LinkedIn s.tables) (ho : o.Links s)
    (hstep : s.Step o p t) : ∀ r ∈ t.relations, r.LinkedIn t.tables := by
  cases hstep with
  | addTable hname ht =>
    exact fun r hr e he => (h r hr e he).mono fun u hu _ => List.mem_append_left _ hu
  | @updateTable id patch u v name ts hname hpatch htable =>
    have hcolumns : v.columns = u.columns := TablePatch.columns_of_apply hpatch ho
    exact fun r hr e he => (h r hr e he).exchange htable (TablePatch.id_of_apply hpatch) fun c hc _ =>
      ⟨c, hcolumns ▸ hc, rfl⟩
  | deleteTable id =>
    intro r hr e he
    obtain ⟨hr, htouches⟩ := List.mem_filter.mp hr
    have hne : e.table ≠ id := Relation.table_ne_of_mem (by simpa using htouches) e he
    refine (h r hr e he).mono fun u hu huid => List.mem_filter.mpr ⟨hu, ?_⟩
    simpa [huid] using hne
  | addColumn hname hunused hpatch htable =>
    exact fun r hr e he => (h r hr e he).exchange htable rfl fun c hc _ => ⟨c, List.mem_append_left _ hc, rfl⟩
  | @updateColumn _ _ _ u c d name cs ts hname hpatch hcolumn htable =>
    refine fun r hr e he => (h r hr e he).exchange htable rfl fun b hb _ => ?_
    rcases hcolumn.mem_or_eq hb with hb | rfl
    · exact ⟨b, hb, rfl⟩
    · exact ⟨d, hcolumn.mem_right, ColumnPatch.id_of_apply hpatch⟩
  | @deleteColumn _ columnId u ts htable =>
    intro r hr e he
    obtain ⟨hr, htouches⟩ := List.mem_filter.mp hr
    have hne : e.column ≠ columnId := Relation.column_ne_of_mem (by simpa using htouches) e he
    refine (h r hr e he).exchange htable rfl fun c hc hcid => ⟨c, List.mem_filter.mpr ⟨hc, ?_⟩, rfl⟩
    simpa [hcid] using hne
  | @reorderColumns _ order u ts htable =>
    exact fun r hr e he => (h r hr e he).exchange htable rfl fun c hc _ => exists_mem_reordered hc order
  | addRelation hpatch hnew =>
    intro r hr
    rcases List.mem_append.mp hr with hr | hr
    · exact h r hr
    · obtain rfl := List.mem_singleton.mp hr
      exact ho _ (by rw [hpatch]; rfl)
  | updateRelation hpatch hrelation =>
    refine hrelation.forall_mem h (ho _ hrelation.find?_eq _ ?_)
    rw [hpatch]
    rfl
  | deleteRelation id => exact fun r hr => h r (List.mem_of_mem_filter hr)

theorem linked_after (h : s.Linked) (ho : o.Links s) : (s.after o).Linked := by
  rcases after_eq_or_step s o with hidle | ⟨p, hstep⟩
  · rwa [hidle]
  · exact ⟨hstep.tableIds_nodup h.ids ho, hstep.relations_linkedIn h.relations ho⟩

/-! ### Another schema in its place -/

theorem linked_ofScript {serial next : Nat} {script : String} {d : Dialect}
    (h : Reading.ofScript serial script d = .ok (.schema s, next)) : s.Linked := by
  obtain ⟨vs, -, hstatements⟩ := Reading.exists_statements h
  refine ⟨(List.nodup_append.mp (Extraction.nodup_ids hstatements)).1, fun r hr e he => ?_⟩
  exact Extraction.exists_of_end hstatements hr (by simpa using he)

/-- Whatever the schemas are, the relations of a reconciled schema are linked. -/
theorem relations_linkedIn_reconcile (old new : Schema) (names : List String) :
    ∀ r ∈ (old.reconcile names new).schema.relations, r.LinkedIn (old.reconcile names new).schema.tables := by
  intro r hr e he
  have hends := Reconciliation.hasEnds_of_mem_mergeRelations hr
  rcases List.mem_pair.mp he with rfl | rfl
  · exact hends.1.exists_mem
  · exact hends.2.exists_mem

theorem exists_reconcile_of_ok {old new : Schema} {script : String} {d : Dialect} {m : Reconciled}
    (h : old.reconcileScript script new d = .ok m) : ∃ names, m = old.reconcile names new := by
  rw [reconcileScript] at h
  cases hnames : Reading.tableNames script d with
  | error f =>
    rw [hnames] at h
    cases h
  | ok names =>
    rw [hnames] at h
    exact ⟨names, (Except.ok.inj h).symm⟩

end Schema

/-- A change of the schema at work: an operation of the editor, the schema of a script in its place, or a reconciled
schema in its place. -/
inductive Revision
  | edit (o : Operation)
  | load (serial : Nat) (script : String) (d : Dialect)
  | reconcile (old : Schema) (script : String) (new : Schema) (d : Dialect)

namespace Schema

/-- The schema after a revision. A script that cannot be read leaves it as it was. -/
def revised (s : Schema) : Revision → Schema
  | .edit o => s.after o
  | .load serial script d =>
    match Reading.ofScript serial script d with
    | .ok (.schema t, _) => t
    | _ => s
  | .reconcile old script new d =>
    match old.reconcileScript script new d with
    | .ok m => m.schema
    | .error _ => s

end Schema

/-- Operations are such that relations stay linked, and no two tables of a reconciled schema have the same
identifier. -/
def Revision.Links (s : Schema) : Revision → Prop
  | .edit o => o.Links s
  | .load .. => True
  | .reconcile old script new d => ∀ m ∈ (old.reconcileScript script new d).toOption, m.schema.tableIds.Nodup

instance (s : Schema) : DecidablePred (Revision.Links s)
  | .edit o => inferInstanceAs (Decidable (o.Links s))
  | .load .. => .isTrue trivial
  | .reconcile old script new d =>
    inferInstanceAs (Decidable (∀ m ∈ (old.reconcileScript script new d).toOption, m.schema.tableIds.Nodup))

namespace Schema

variable {s : Schema}

theorem linked_revised {v : Revision} (h : s.Linked) (hv : v.Links s) : (s.revised v).Linked := by
  cases v with
  | edit o => exact linked_after h hv
  | load serial script d =>
    rw [revised]
    split
    · next hread => exact linked_ofScript hread
    · exact h
  | reconcile old script new d =>
    rw [revised]
    split
    · next m hm =>
      obtain ⟨names, rfl⟩ := exists_reconcile_of_ok hm
      exact ⟨hv _ (by rw [hm]; rfl), relations_linkedIn_reconcile old new names⟩
    · exact h

/-- Orders belong to a user. -/
def shopping : Schema where
  tables := [
    { id := .named "o", name := "orders"
      columns := [{ id := .named "u", name := "user" }, { id := .named "s", name := "shop" }] },
    { id := .named "p", name := "users", columns := [{ id := .named "i", name := "id" }] }]
  relations := [{
    id := .named "r", sourceTableId := .named "o", sourceColumnId := .named "u",
    targetTableId := .named "p", targetColumnId := .named "i" }]

/-- A relation is added and then moved to another column, a column is deleted together with it, and after the users
are gone the first schema comes back with other columns. -/
def shoppingSteps : List Revision := [
  .edit (.addTable (.named "q") (.named "j") (.text "shops")),
  .edit (.addRelation (.named "x") {
    sourceTableId := some (.named "o"), sourceColumnId := some (.named "s"),
    targetTableId := some (.named "q"), targetColumnId := some (.named "j") }),
  .edit (.updateRelation (.named "x") { targetTableId := some (.named "p"), targetColumnId := some (.named "i") }),
  .edit (.deleteColumn (.named "o") (.named "s")),
  .edit (.deleteTable (.named "p")),
  .reconcile shopping "" {
    tables := [
      { id := .fresh 0, name := "Users", columns := [{ id := .fresh 1, name := "ID" }] },
      { id := .fresh 2, name := "orders", columns := [{ id := .fresh 3, name := "buyer" }] }]
    relations := [{
      id := .fresh 4, sourceTableId := .fresh 2, sourceColumnId := .fresh 3,
      targetTableId := .fresh 0, targetColumnId := .fresh 1 }] } .mysql,
  .load 5 "CREATE TABLE users (id INT PRIMARY KEY)" .mysql]

end Schema

/-! ### Sessions -/

namespace Session

variable {s t : Session} {script : String} {d : Dialect}

/-- Loading a script revises the schema of the session. -/
theorem schema_of_load {errors : List ScriptError} (h : s.load script d = .ok (t, errors)) :
    t.schema = s.schema.revised (.load s.serial script d) := by
  rw [load] at h
  cases hread : Reading.ofScript s.serial script d with
  | error f =>
    rw [hread] at h
    cases h
  | ok found =>
    obtain ⟨r, next⟩ := found
    rw [hread] at h
    cases r <;> cases h <;> rw [Schema.revised, hread]

/-- So does editing its script, unless the edited script has errors. -/
theorem schema_of_edit {replacements : List (String × String)} {outcome : EditOutcome}
    (h : s.edit replacements d = .ok (t, outcome)) :
    t.schema = s.schema ∨ ∃ new, t.schema = s.schema.revised (.reconcile s.schema s.script new d) := by
  obtain ⟨⟨r, next⟩, -, h⟩ := bind_eq_ok_iff.mp h
  cases r with
  | error e =>
    cases h
    exact Or.inl rfl
  | schema new =>
    obtain ⟨m, hm, h⟩ := bind_eq_ok_iff.mp h
    cases h
    exact Or.inr ⟨new, by rw [Schema.revised, hm]⟩

end Session

end SchemaDesk
