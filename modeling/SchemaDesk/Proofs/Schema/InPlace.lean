import SchemaDesk.Proofs.Schema.Step
import SchemaDesk.Schema.Editor
/-!
The editor writes to its schema only when nothing can fail any more. So an operation that fails, or that gives back
no part, leaves the schema as it was, and one that gives back a part has changed nothing else.
-/

namespace SchemaDesk

/-- An operation as a program that changes the schema in place. -/
def Operation.perform : Operation → Editor (Option Subject)
  | .addTable tableId columnId name => return some (.table (← Editor.addTable tableId columnId name))
  | .updateTable id patch => return (← Editor.updateTable id patch).map .table
  | .deleteTable id => do
    Editor.deleteTable id
    return none
  | .addColumn tableId columnId name patch => return (← Editor.addColumn tableId columnId name patch).map .column
  | .updateColumn tableId columnId patch => return (← Editor.updateColumn tableId columnId patch).map .column
  | .deleteColumn tableId columnId => do
    Editor.deleteColumn tableId columnId
    return none
  | .reorderColumns tableId order => do
    Editor.reorderColumns tableId order
    return none
  | .addRelation id patch => return (← Editor.addRelation id patch).map .relation
  | .updateRelation id patch => return (← Editor.updateRelation id patch).map .relation
  | .deleteRelation id => do
    Editor.deleteRelation id
    return none

/-- The operation adds a part or changes one. -/
def Operation.AddsOrUpdates : Operation → Prop
  | .addTable .. | .updateTable .. | .addColumn .. | .updateColumn .. | .addRelation .. | .updateRelation .. => True
  | _ => False

/-- Each field has the value that the patch gives it, and keeps its own where the patch gives none. A name that the
patch asks for may have to be numbered. -/
structure TablePatch.ChangesOnly (p : TablePatch) (t u : Table) : Prop where
  id_eq : u.id = t.id
  name_eq : p.name = none → u.name = t.name
  color_eq : u.color = p.color.getD t.color
  columns_eq : u.columns = p.columns.getD t.columns
  position_eq : u.position = p.position.getD t.position
  parentNode_eq : u.parentNode = p.parentNode.getD t.parentNode

/-- As for tables. -/
structure ColumnPatch.ChangesOnly (p : ColumnPatch) (c d : Column) : Prop where
  id_eq : d.id = c.id
  name_eq : p.name = none → d.name = c.name
  type_eq : d.type = p.type.getD c.type
  primaryKey_eq : d.primaryKey = p.primaryKey.getD c.primaryKey
  nullable_eq : d.nullable = p.nullable.getD c.nullable
  unique_eq : d.unique = p.unique.getD c.unique
  default_eq : d.default = p.default.getD c.default
  length_eq : d.length = p.length.getD c.length
  precision_eq : d.precision = p.precision.getD c.precision
  scale_eq : d.scale = p.scale.getD c.scale
  dimension_eq : d.dimension = p.dimension.getD c.dimension

/-- As for tables, but a relation takes any name. -/
structure RelationPatch.ChangesOnly (p : RelationPatch) (q r : Relation) : Prop where
  id_eq : r.id = q.id
  sourceTableId_eq : r.sourceTableId = p.sourceTableId.getD q.sourceTableId
  sourceColumnId_eq : r.sourceColumnId = p.sourceColumnId.getD q.sourceColumnId
  targetTableId_eq : r.targetTableId = p.targetTableId.getD q.targetTableId
  targetColumnId_eq : r.targetColumnId = p.targetColumnId.getD q.targetColumnId
  type_eq : r.type = p.type.getD q.type
  onDelete_eq : r.onDelete = p.onDelete.getD q.onDelete
  onUpdate_eq : r.onUpdate = p.onUpdate.getD q.onUpdate
  name_eq : r.name = p.name.getD q.name

/-- The whole difference between the schemas before and after an operation that gives back a part: the part is new
at the end of its list, or it stands in the place of the one that the operation names. -/
def Operation.Changes (s t : Schema) : Operation → Subject → Prop
  | .addTable .., .table u => t = { s with tables := s.tables ++ [u] }
  | .updateTable id patch, .table u => ∃ v ts,
      Exchanges Table.id id v u s.tables ts ∧ patch.ChangesOnly v u ∧ t = { s with tables := ts }
  | .addColumn id _ _ _, .column c => ∃ v ts,
      Exchanges Table.id id v { v with columns := v.columns ++ [c] } s.tables ts ∧ t = { s with tables := ts }
  | .updateColumn id columnId patch, .column c => ∃ v ts d cs,
      Exchanges Table.id id v { v with columns := cs } s.tables ts ∧ Exchanges Column.id columnId d c v.columns cs ∧
        patch.ChangesOnly d c ∧ t = { s with tables := ts }
  | .addRelation .., .relation r => t = { s with relations := s.relations ++ [r] }
  | .updateRelation id patch, .relation r => ∃ q rs,
      Exchanges Relation.id id q r s.relations rs ∧ patch.ChangesOnly q r ∧ t = { s with relations := rs }
  | _, _ => False

namespace Schema

/-- The outcome of an edit for the schema in place, which is written to only if there is an effect. -/
def settled {α : Type} (s : Schema) : Except Failure (Option (Edited α)) → EStateM.Result Failure Schema (Option α)
  | .error f => .error f s
  | .ok none => .ok none s
  | .ok (some e) => .ok (some e.subject) e.schema

variable (s : Schema)

theorem run_get_bind {α : Type} (f : Schema → Editor α) : (get >>= f) s = f s s := rfl

theorem run_bind_pure {α β : Type} (m : Editor α) (g : α → β) :
    (m >>= fun a => pure (g a)) s = match m s with
      | .error f t => .error f t
      | .ok a t => .ok (g a) t := by
  change EStateM.bind m (fun a => pure (g a)) s = _
  rw [EStateM.bind]
  cases m s <;> rfl

/-- What is worked out before any write does not matter for the schema if it fails. -/
theorem run_ofExcept_bind {α β : Type} {x : Except Failure α} {f : α → Editor (Option β)}
    {g : α → Except Failure (Option (Edited β))} (h : ∀ a, f a s = s.settled (g a)) :
    (ofExcept x >>= f) s = s.settled (x >>= g) := by
  cases x with
  | error e => rfl
  | ok a => exact h a

theorem run_ofExcept_map {α β : Type} {x : Except Failure α} {f : α → Editor (Option β)}
    {g : α → Option (Edited β)} (h : ∀ a, f a s = s.settled (.ok (g a))) :
    (ofExcept x >>= f) s = s.settled (x.map g) := by
  cases x with
  | error e => rfl
  | ok a => exact h a

theorem run_addTable (tableId columnId : Id) (name : GivenName) :
    Editor.addTable tableId columnId name s = match s.addTable tableId columnId name with
      | .error f => .error f s
      | .ok e => .ok e.subject e.schema := by
  cases name <;> rfl

theorem run_updateTable (id : Id) (patch : TablePatch) :
    Editor.updateTable id patch s = s.settled (s.updateTable id patch) := by
  rw [Editor.updateTable, run_get_bind]
  refine run_ofExcept_bind s fun name? => ?_
  cases name? with
  | none => rfl
  | some name =>
    cases s.table? id with
    | none => rfl
    | some t => exact run_ofExcept_bind s fun u => rfl

theorem run_addColumn (tableId columnId : Id) (name : GivenName) (patch : ColumnPatch) :
    Editor.addColumn tableId columnId name patch s = s.settled (s.addColumn tableId columnId name patch) := by
  rw [Editor.addColumn, run_get_bind, addColumn]
  cases s.table? tableId with
  | none => rfl
  | some t => exact run_ofExcept_bind s fun asked => run_ofExcept_bind s fun c => rfl

theorem run_updateColumn (tableId columnId : Id) (patch : ColumnPatch) :
    Editor.updateColumn tableId columnId patch s = s.settled (s.updateColumn tableId columnId patch) := by
  rw [Editor.updateColumn, run_get_bind, updateColumn]
  cases s.table? tableId with
  | none => rfl
  | some t =>
    refine run_ofExcept_bind s fun name? => ?_
    cases name? with
    | none => rfl
    | some name =>
      dsimp only
      cases t.column? columnId with
      | none => rfl
      | some c => exact run_ofExcept_bind s fun d => rfl

theorem run_deleteColumn (tableId columnId : Id) :
    Editor.deleteColumn tableId columnId s = .ok () (s.deleteColumn tableId columnId) := by
  rw [Editor.deleteColumn, run_get_bind, deleteColumn]
  cases s.table? tableId <;> rfl

theorem run_reorderColumns (tableId : Id) (order : Option (List Id)) :
    Editor.reorderColumns tableId order s = match s.reorderColumns tableId order with
      | .error f => .error f s
      | .ok t => .ok () t := by
  rw [Editor.reorderColumns, run_get_bind, reorderColumns]
  cases s.table? tableId with
  | none => rfl
  | some t => cases order <;> rfl

theorem run_addRelation (id : Id) (patch : RelationPatch) :
    Editor.addRelation id patch s = s.settled (s.addRelation id patch) := by
  refine run_ofExcept_map s fun r => ?_
  rw [run_get_bind]
  by_cases hnew : r.existsIn s.relations = true
  · rw [if_pos hnew, if_pos hnew]
    rfl
  · rw [if_neg hnew, if_neg hnew]
    rfl

theorem run_updateRelation (id : Id) (patch : RelationPatch) :
    Editor.updateRelation id patch s = s.settled (s.updateRelation id patch) := by
  rw [Editor.updateRelation, run_get_bind, updateRelation]
  cases s.relations.find? fun r => r.id == id with
  | none => rfl
  | some q => exact run_ofExcept_map s fun r => rfl

/-- How an operation can end. It fails, or has no effect, and the schema is as it was; or it takes its step. -/
inductive Ends (o : Operation) : EStateM.Result Failure Schema (Option Subject) → Prop
  | failed {f : Failure} (h : s.attempt o = .error f) : Ends o (.error f s)
  | idle (h : s.attempt o = .ok s) : Ends o (.ok none s)
  | stepped {p : Option Subject} {t : Schema} (h : s.attempt o = .ok t) (hstep : s.Step o p t) : Ends o (.ok p t)

variable {s}

theorem ends_of_settled {α : Type} {o : Operation} {x : Except Failure (Option (Edited α))} {p : Editor (Option α)}
    {part : α → Subject} (hrun : p s = s.settled x) (hattempt : s.attempt o = x.map s.orEdited)
    (hstep : ∀ e, x = .ok (some e) → s.Step o (some (part e.subject)) e.schema) :
    s.Ends o ((do return (← p).map part : Editor (Option Subject)) s) := by
  rw [run_bind_pure, hrun]
  obtain f | (_ | e) := x
  · exact .failed hattempt
  · exact .idle hattempt
  · exact .stepped hattempt (hstep e rfl)

/-- Every operation ends in one of these ways, and in the same way as without a schema in place. -/
theorem perform_ends (s : Schema) (o : Operation) : s.Ends o (o.perform s) := by
  cases o with
  | addTable tableId columnId name =>
    rw [Operation.perform, run_bind_pure, run_addTable]
    cases hadd : s.addTable tableId columnId name with
    | error f => exact .failed (by rw [attempt, hadd]; rfl)
    | ok e => exact .stepped (by rw [attempt, hadd]; rfl) (step_addTable hadd)
  | updateTable id patch => exact ends_of_settled (run_updateTable s id patch) rfl fun e => step_updateTable
  | deleteTable id => exact .stepped rfl (.deleteTable id)
  | addColumn tableId columnId name patch =>
    exact ends_of_settled (run_addColumn s tableId columnId name patch) rfl fun e => step_addColumn
  | updateColumn tableId columnId patch =>
    exact ends_of_settled (run_updateColumn s tableId columnId patch) rfl fun e => step_updateColumn
  | deleteColumn tableId columnId =>
    rw [Operation.perform, run_bind_pure, run_deleteColumn]
    rcases step_deleteColumn s tableId columnId with hidle | hstep
    · rw [hidle]
      exact .idle (by rw [attempt, hidle])
    · exact .stepped rfl hstep
  | reorderColumns tableId order =>
    rw [Operation.perform, run_bind_pure, run_reorderColumns]
    cases horder : s.reorderColumns tableId order with
    | error f => exact .failed horder
    | ok t =>
      rcases step_reorderColumns horder with rfl | hstep
      · exact .idle horder
      · exact .stepped horder hstep
  | addRelation id patch => exact ends_of_settled (run_addRelation s id patch) rfl fun e => step_addRelation
  | updateRelation id patch => exact ends_of_settled (run_updateRelation s id patch) rfl fun e => step_updateRelation
  | deleteRelation id => exact .stepped rfl (.deleteRelation id)

end Schema

theorem TablePatch.changesOnly_of_apply {p : TablePatch} {name : String} {t u : Table} (h : p.apply name t = .ok u)
    (hname : p.name = none → name = t.name) : p.ChangesOnly t u := by
  obtain ⟨-, rfl⟩ := apply_eq_ok_iff.mp h
  exact ⟨rfl, hname, rfl, rfl, rfl, rfl⟩

theorem ColumnPatch.changesOnly_of_apply {p : ColumnPatch} {name : String} {c d : Column} (h : p.apply name c = .ok d)
    (hname : p.name = none → name = c.name) : p.ChangesOnly c d := by
  obtain ⟨-, rfl⟩ := apply_eq_ok_iff.mp h
  exact ⟨rfl, hname, rfl, rfl, rfl, rfl, rfl, rfl, rfl, rfl, rfl⟩

theorem RelationPatch.changesOnly_of_apply {p : RelationPatch} {q r : Relation} (h : p.apply q = .ok r) :
    p.ChangesOnly q r := by
  rw [apply] at h
  split at h
  · cases h
  · cases h
    exact ⟨rfl, rfl, rfl, rfl, rfl, rfl, rfl, rfl, rfl⟩

namespace Schema

theorem newName?_none {others : List String} {current name : String}
    (h : newName? none others current = .ok (some name)) : name = current := by
  cases h
  rfl

theorem Step.changes {s t : Schema} {o : Operation} {p : Subject} (h : s.Step o (some p) t) : o.Changes s t p := by
  cases h with
  | addTable hname ht => rfl
  | updateTable hname hpatch htable =>
    refine ⟨_, _, htable, TablePatch.changesOnly_of_apply hpatch fun hnone => ?_, rfl⟩
    rw [hnone] at hname
    exact newName?_none hname
  | addColumn hname hunused hpatch htable => exact ⟨_, _, htable, rfl⟩
  | updateColumn hname hpatch hcolumn htable =>
    refine ⟨_, _, _, _, htable, hcolumn, ColumnPatch.changesOnly_of_apply hpatch fun hnone => ?_, rfl⟩
    rw [hnone] at hname
    exact newName?_none hname
  | addRelation hpatch hnew => rfl
  | updateRelation hpatch hrelation => exact ⟨_, _, hrelation, RelationPatch.changesOnly_of_apply hpatch, rfl⟩

/-- An operation that fails leaves the schema in place as it was, and so does one that has nothing to add or to change.
One that gives back a part has written that part and nothing else. -/
theorem perform_writes_part (s : Schema) (o : Operation) :
    match o.perform s with
    | .error _ t => t = s
    | .ok none t => o.AddsOrUpdates → t = s
    | .ok (some p) t => o.Changes s t p := by
  have hends := perform_ends s o
  generalize o.perform s = outcome at hends ⊢
  cases hends with
  | failed h => rfl
  | idle h => exact fun hadds => rfl
  | @stepped p t h hstep =>
    cases p with
    | none =>
      intro hadds
      cases hstep <;> cases hadds
    | some p => exact hstep.changes

end Schema

end SchemaDesk
