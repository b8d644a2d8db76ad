import SchemaDesk.Proofs.Schema.Operation
/-!
What one operation of the editor makes of a schema. An operation that has an effect takes exactly one of the steps
below, each of which tells what is written and on which conditions.
-/

namespace SchemaDesk

theorem bind_eq_ok_iff {α β : Type} {x : Except Failure α} {f : α → Except Failure β} {b : β} :
    (x >>= f) = .ok b ↔ ∃ a, x = .ok a ∧ f a = .ok b := by
  cases x <;> simp [bind, Except.bind]

/-- The first element of an identifier is exchanged for another one, and all others stay in place. -/
def Exchanges {α : Type} (idOf : α → Id) (id : Id) (x y : α) (xs ys : List α) : Prop :=
  ∃ before after, xs = before ++ x :: after ∧ (∀ a ∈ before, idOf a ≠ id) ∧ idOf x = id ∧ ys = before ++ y :: after

namespace Exchanges

variable {α : Type} {idOf : α → Id} {id : Id} {x y : α} {xs ys : List α}

theorem of_find? (h : xs.find? (fun a => idOf a == id) = some x) (y : α) :
    Exchanges idOf id x y xs (changeFirst (fun a => idOf a == id) y xs) := by
  obtain ⟨hid, before, after, rfl, hbefore⟩ := List.find?_eq_some_iff_append.mp h
  have hpass : ∀ a ∈ before, (idOf a == id) = false := fun a ha => by simpa using hbefore a ha
  exact ⟨before, after, rfl, fun a ha => by simpa using hpass a ha, by simpa using hid, changeFirst_append hpass hid y⟩

theorem find?_eq (h : Exchanges idOf id x y xs ys) : xs.find? (fun a => idOf a == id) = some x := by
  obtain ⟨before, after, rfl, hbefore, hid, -⟩ := h
  exact List.find?_eq_some_iff_append.mpr ⟨by simpa using hid, before, after, rfl, by simpa using hbefore⟩

theorem id_eq (h : Exchanges idOf id x y xs ys) : idOf x = id := by
  obtain ⟨-, -, -, -, hid, -⟩ := h
  exact hid

theorem mem_left (h : Exchanges idOf id x y xs ys) : x ∈ xs := by
  obtain ⟨before, after, rfl, -, -, -⟩ := h
  simp

theorem mem_right (h : Exchanges idOf id x y xs ys) : y ∈ ys := by
  obtain ⟨before, after, -, -, -, rfl⟩ := h
  simp

/-- What holds of all elements holds of them after the exchange, if it holds of the new one. -/
theorem forall_mem {P : α → Prop} (h : Exchanges idOf id x y xs ys) (hxs : ∀ a ∈ xs, P a) (hy : P y) :
    ∀ a ∈ ys, P a := by
  obtain ⟨before, after, rfl, -, -, rfl⟩ := h
  intro a ha
  rcases List.mem_append.mp ha with ha | ha
  · exact hxs a (by simp [ha])
  · rcases List.mem_cons.mp ha with rfl | ha
    · exact hy
    · exact hxs a (by simp [ha])

theorem map_eq {β : Type} {f : α → β} (h : Exchanges idOf id x y xs ys) (hf : f y = f x) : ys.map f = xs.map f := by
  obtain ⟨before, after, rfl, -, -, rfl⟩ := h
  simp [hf]

end Exchanges

/-- What an operation gives back: the part of the schema that it added or changed. -/
inductive Subject
  | table (t : Table)
  | column (c : Column)
  | relation (r : Relation)

namespace Schema

/-- The names of the tables but those of one identifier. -/
def namesBut (s : Schema) (id : Id) : List String := (s.tables.filter fun t => t.id != id).map (·.name)

end Schema

/-- The names of the columns but those of one identifier. -/
def Table.namesBut (t : Table) (id : Id) : List String := (t.columns.filter fun c => c.id != id).map (·.name)

namespace Schema

/-- The effects of the operations, with what they give back. An operation without effect takes no step. -/
inductive Step (s : Schema) : Operation → Option Subject → Schema → Prop
  | addTable {tableId columnId : Id} {name : GivenName} {asked : String} {t : Table} (hname : name.read = .ok asked)
      (ht : t = { id := tableId
                  name := Naming.unusedName (orDefault asked defaultTableName) (s.tables.map (·.name))
                  columns := [idColumn columnId] }) :
      Step s (.addTable tableId columnId name) (some (.table t)) { s with tables := s.tables ++ [t] }
  | updateTable {id : Id} {patch : TablePatch} {t u : Table} {name : String} {ts : List Table}
      (hname : newName? patch.name (s.namesBut id) t.name = .ok (some name)) (hpatch : patch.apply name t = .ok u)
      (htable : Exchanges Table.id id t u s.tables ts) :
      Step s (.updateTable id patch) (some (.table u)) { s with tables := ts }
  | deleteTable (id : Id) : Step s (.deleteTable id) none (s.deleteTable id)
  | addColumn {tableId columnId : Id} {name : GivenName} {patch : ColumnPatch} {t : Table} {asked unused : String}
      {c : Column} {ts : List Table} (hname : name.read = .ok asked)
      (hunused : unused = Naming.unusedName (orDefault asked defaultColumnName) (t.columns.map (·.name)))
      (hpatch : patch.apply unused { id := columnId, name := unused } = .ok c)
      (htable : Exchanges Table.id tableId t { t with columns := t.columns ++ [c] } s.tables ts) :
      Step s (.addColumn tableId columnId name patch) (some (.column c)) { s with tables := ts }
  | updateColumn {tableId columnId : Id} {patch : ColumnPatch} {t : Table} {c d : Column} {name : String}
      {cs : List Column} {ts : List Table} (hname : newName? patch.name (t.namesBut columnId) c.name = .ok (some name))
      (hpatch : patch.apply name c = .ok d) (hcolumn : Exchanges Column.id columnId c d t.columns cs)
      (htable : Exchanges Table.id tableId t { t with columns := cs } s.tables ts) :
      Step s (.updateColumn tableId columnId patch) (some (.column d)) { s with tables := ts }
  | deleteColumn {tableId columnId : Id} {t : Table} {ts : List Table}
      (htable : Exchanges Table.id tableId t { t with columns := t.columns.filter fun c => c.id != columnId }
        s.tables ts) :
      Step s (.deleteColumn tableId columnId) none
        { tables := ts, relations := s.relations.filter fun r => !r.touchesColumn columnId }
  | reorderColumns {tableId : Id} {order : List Id} {t : Table} {ts : List Table}
      (htable : Exchanges Table.id tableId t { t with columns := reordered t.columns order } s.tables ts) :
      Step s (.reorderColumns tableId (some order)) none { s with tables := ts }
  | addRelation {id : Id} {patch : RelationPatch} {r : Relation} (hpatch : patch.create id = .ok r)
      (hnew : ¬ r.existsIn s.relations = true) :
      Step s (.addRelation id patch) (some (.relation r)) { s with relations := s.relations ++ [r] }
  | updateRelation {id : Id} {patch : RelationPatch} {q r : Relation} {rs : List Relation}
      (hpatch : patch.apply q = .ok r) (hrelation : Exchanges Relation.id id q r s.relations rs) :
      Step s (.updateRelation id patch) (some (.relation r)) { s with relations := rs }
  | deleteRelation (id : Id) : Step s (.deleteRelation id) none (s.deleteRelation id)

end Schema

/-- The columns as a whole are left alone. -/
def Operation.KeepsColumns : Operation → Prop
  | .updateTable _ patch => patch.columns = none
  | _ => True

instance : DecidablePred Operation.KeepsColumns
  | .updateTable _ patch => inferInstanceAs (Decidable (patch.columns = none))
  | .addTable .. | .deleteTable _ | .addColumn .. | .updateColumn .. | .deleteColumn .. | .reorderColumns ..
  | .addRelation .. | .updateRelation .. | .deleteRelation _ => .isTrue trivial

theorem TablePatch.apply_eq_ok_iff {p : TablePatch} {name : String} {t u : Table} :
    p.apply name t = .ok u ↔ p.unknownField = false ∧ u = { t with
      name := name
      color := p.color.getD t.color
      columns := p.columns.getD t.columns
      position := p.position.getD t.position
      parentNode := p.parentNode.getD t.parentNode } := by
  cases hunknown : p.unknownField <;> simp [apply, hunknown, eq_comm]

theorem TablePatch.id_of_apply {p : TablePatch} {name : String} {t u : Table} (h : p.apply name t = .ok u) :
    u.id = t.id := by
  obtain ⟨-, rfl⟩ := apply_eq_ok_iff.mp h
  rfl

theorem TablePatch.name_of_apply {p : TablePatch} {name : String} {t u : Table} (h : p.apply name t = .ok u) :
    u.name = name := by
  obtain ⟨-, rfl⟩ := apply_eq_ok_iff.mp h
  rfl

theorem TablePatch.columns_of_apply {p : TablePatch} {name : String} {t u : Table} (h : p.apply name t = .ok u)
    (hkeeps : p.columns = none) : u.columns = t.columns := by
  obtain ⟨-, rfl⟩ := apply_eq_ok_iff.mp h
  rw [hkeeps, Option.getD_none]

theorem ColumnPatch.apply_eq_ok_iff {p : ColumnPatch} {name : String} {c d : Column} :
    p.apply name c = .ok d ↔ p.unknownField = false ∧ d = { c with
      name := name
      type := p.type.getD c.type
      primaryKey := p.primaryKey.getD c.primaryKey
      nullable := p.nullable.getD c.nullable
      unique := p.unique.getD c.unique
      default := p.default.getD c.default
      length := p.length.getD c.length
      precision := p.precision.getD c.precision
      scale := p.scale.getD c.scale
      dimension := p.dimension.getD c.dimension } := by
  cases hunknown : p.unknownField <;> simp [apply, hunknown, eq_comm]

theorem ColumnPatch.id_of_apply {p : ColumnPatch} {name : String} {c d : Column} (h : p.apply name c = .ok d) :
    d.id = c.id := by
  obtain ⟨-, rfl⟩ := apply_eq_ok_iff.mp h
  rfl

theorem ColumnPatch.name_of_apply {p : ColumnPatch} {name : String} {c d : Column} (h : p.apply name c = .ok d) :
    d.name = name := by
  obtain ⟨-, rfl⟩ := apply_eq_ok_iff.mp h
  rfl

namespace Schema

/-- A part keeps its name, or gets one that is made unused from a text that is not blank. -/
theorem newName?_eq_some_iff {asked : Option GivenName} {others : List String} {current name : String} :
    newName? asked others current = .ok (some name) ↔
      (asked = none ∧ name = current) ∨
        ∃ given base, asked = some given ∧ given.read = .ok base ∧ base ≠ "" ∧ name = Naming.unusedName base others := by
  cases asked with
  | none => simpa [newName?] using eq_comm
  | some given =>
    cases hread : given.read with
    | error f => simp [newName?, hread, Except.map]
    | ok base =>
      by_cases hbase : base = ""
      · simp [newName?, hread, Except.map, hbase]
      · simpa [newName?, hread, Except.map, hbase] using eq_comm

variable {s : Schema}

/-- The table of an identifier is exchanged for another one of that identifier. -/
theorem exchanges_setTable {id : Id} {t u : Table} (ht : s.table? id = some t) (hu : u.id = t.id) :
    Exchanges Table.id id t u s.tables (s.setTable u).tables := by
  have hid : t.id = id := (Exchanges.of_find? ht t).id_eq
  rw [setTable, hu, hid]
  exact Exchanges.of_find? ht u

/-- So is a column. -/
theorem exchanges_changeFirst {t : Table} {id : Id} {c d : Column} (hc : t.column? id = some c) (hd : d.id = c.id) :
    Exchanges Column.id id c d t.columns (changeFirst (fun b => b.id == d.id) d t.columns) := by
  have hid : c.id = id := (Exchanges.of_find? hc c).id_eq
  rw [hd, hid]
  exact Exchanges.of_find? hc d

theorem step_addTable {tableId columnId : Id} {name : GivenName} {e : Edited Table}
    (h : s.addTable tableId columnId name = .ok e) :
    s.Step (.addTable tableId columnId name) (some (.table e.subject)) e.schema := by
  rw [addTable] at h
  cases hname : name.read with
  | error f =>
    rw [hname] at h
    cases h
  | ok asked =>
    rw [hname] at h
    cases h
    exact .addTable hname rfl

theorem step_updateTable {id : Id} {patch : TablePatch} {e : Edited Table}
    (h : s.updateTable id patch = .ok (some e)) : s.Step (.updateTable id patch) (some (.table e.subject)) e.schema := by
  obtain ⟨name?, hname, h⟩ := bind_eq_ok_iff.mp h
  cases name? with
  | none => cases h
  | some name =>
    cases hfound : s.table? id with
    | none =>
      rw [hfound] at h
      cases h
    | some t =>
      rw [hfound] at h hname
      obtain ⟨u, hpatch, h⟩ := bind_eq_ok_iff.mp h
      cases h
      exact .updateTable hname hpatch (exchanges_setTable hfound (TablePatch.id_of_apply hpatch))

theorem step_addColumn {tableId columnId : Id} {name : GivenName} {patch : ColumnPatch} {e : Edited Column}
    (h : s.addColumn tableId columnId name patch = .ok (some e)) :
    s.Step (.addColumn tableId columnId name patch) (some (.column e.subject)) e.schema := by
  rw [addColumn] at h
  cases hfound : s.table? tableId with
  | none =>
    rw [hfound] at h
    cases h
  | some t =>
    rw [hfound] at h
    obtain ⟨asked, hname, h⟩ := bind_eq_ok_iff.mp h
    obtain ⟨c, hpatch, h⟩ := bind_eq_ok_iff.mp h
    cases h
    exact .addColumn hname rfl hpatch (exchanges_setTable hfound rfl)

theorem step_updateColumn {tableId columnId : Id} {patch : ColumnPatch} {e : Edited Column}
    (h : s.updateColumn tableId columnId patch = .ok (some e)) :
    s.Step (.updateColumn tableId columnId patch) (some (.column e.subject)) e.schema := by
  rw [updateColumn] at h
  cases hfound : s.table? tableId with
  | none =>
    rw [hfound] at h
    cases h
  | some t =>
    rw [hfound] at h
    obtain ⟨name?, hname, h⟩ := bind_eq_ok_iff.mp h
    cases name? with
    | none => cases h
    | some name =>
      cases hcolumn : t.column? columnId with
      | none =>
        rw [hcolumn] at h
        cases h
      | some c =>
        rw [hcolumn] at h hname
        obtain ⟨d, hpatch, h⟩ := bind_eq_ok_iff.mp h
        cases h
        exact .updateColumn hname hpatch (exchanges_changeFirst hcolumn (ColumnPatch.id_of_apply hpatch))
          (exchanges_setTable hfound rfl)

theorem step_deleteColumn (s : Schema) (tableId columnId : Id) :
    s.deleteColumn tableId columnId = s ∨
      s.Step (.deleteColumn tableId columnId) none (s.deleteColumn tableId columnId) := by
  rw [deleteColumn]
  cases hfound : s.table? tableId with
  | none => exact Or.inl rfl
  | some t => exact Or.inr (.deleteColumn (exchanges_setTable hfound rfl))

theorem step_reorderColumns {tableId : Id} {order : Option (List Id)} {t : Schema}
    (h : s.reorderColumns tableId order = .ok t) : t = s ∨ s.Step (.reorderColumns tableId order) none t := by
  rw [reorderColumns] at h
  cases hfound : s.table? tableId with
  | none =>
    rw [hfound] at h
    cases h
    exact Or.inl rfl
  | some t =>
    rw [hfound] at h
    cases order with
    | none => cases h
    | some order =>
      cases h
      exact Or.inr (.reorderColumns (exchanges_setTable hfound rfl))

theorem step_addRelation {id : Id} {patch : RelationPatch} {e : Edited Relation}
    (h : s.addRelation id patch = .ok (some e)) :
    s.Step (.addRelation id patch) (some (.relation e.subject)) e.schema := by
  rw [addRelation] at h
  cases hpatch : patch.create id with
  | error f =>
    rw [hpatch] at h
    cases h
  | ok r =>
    rw [hpatch] at h
    by_cases hnew : r.existsIn s.relations = true
    · simp [Except.map, hnew] at h
    · simp only [Except.map, hnew] at h
      cases h
      exact .addRelation hpatch hnew

theorem step_updateRelation {id : Id} {patch : RelationPatch} {e : Edited Relation}
    (h : s.updateRelation id patch = .ok (some e)) :
    s.Step (.updateRelation id patch) (some (.relation e.subject)) e.schema := by
  rw [updateRelation] at h
  cases hfound : s.relations.find? (fun r => r.id == id) with
  | none =>
    rw [hfound] at h
    cases h
  | some q =>
    rw [hfound] at h
    cases hpatch : patch.apply q with
    | error f =>
      simp [hpatch, Except.map] at h
    | ok r =>
      simp only [hpatch, Except.map] at h
      cases h
      exact .updateRelation hpatch (.of_find? hfound r)

/-- An operation that goes through has no effect or takes its step. -/
theorem step_of_attempt {o : Operation} {t : Schema} (h : s.attempt o = .ok t) : t = s ∨ ∃ p, s.Step o p t := by
  have hedited {α : Type} {x : Except Failure (Option (Edited α))} {part : α → Subject}
      (hstep : ∀ e, x = .ok (some e) → s.Step o (some (part e.subject)) e.schema) (hx : x.map s.orEdited = .ok t) :
      t = s ∨ ∃ p, s.Step o p t := by
    rcases orEdited_cases hx with rfl | ⟨e, he, rfl⟩
    · exact Or.inl rfl
    · exact Or.inr ⟨_, hstep e he⟩
  cases o with
  | addTable tableId columnId name =>
    cases hadd : s.addTable tableId columnId name with
    | error f => simp [attempt, hadd, Except.map] at h
    | ok e =>
      simp only [attempt, hadd, Except.map] at h
      cases h
      exact Or.inr ⟨_, step_addTable hadd⟩
  | updateTable id patch => exact hedited (fun e => step_updateTable) h
  | deleteTable id =>
    cases h
    exact Or.inr ⟨_, .deleteTable id⟩
  | addColumn tableId columnId name patch => exact hedited (fun e => step_addColumn) h
  | updateColumn tableId columnId patch => exact hedited (fun e => step_updateColumn) h
  | deleteColumn tableId columnId =>
    cases h
    exact (step_deleteColumn s tableId columnId).imp_right fun hstep => ⟨_, hstep⟩
  | reorderColumns tableId order => exact (step_reorderColumns h).imp_right fun hstep => ⟨_, hstep⟩
  | addRelation id patch => exact hedited (fun e => step_addRelation) h
  | updateRelation id patch => exact hedited (fun e => step_updateRelation) h
  | deleteRelation id =>
    cases h
    exact Or.inr ⟨_, .deleteRelation id⟩

theorem after_eq_or_step (s : Schema) (o : Operation) : s.after o = s ∨ ∃ p, s.Step o p (s.after o) := by
  rw [after]
  cases h : s.attempt o with
  | error f => exact Or.inl rfl
  | ok t => exact step_of_attempt h

end Schema

end SchemaDesk
