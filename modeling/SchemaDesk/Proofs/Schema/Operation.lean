import Mathlib.Data.List.Basic
import Mathlib.Tactic.Common
import SchemaDesk.Proofs.Reconciliation.Relations
import SchemaDesk.Schema.Edit
/-!
Runs of the editor. No two relations of a schema are meant to connect the same columns. A new relation is added
only if its ends are not connected yet, but a change of a relation is made whatever ends it gives; so a run stays
among such schemas exactly as long as no change takes a relation to the ends of another one.
-/

namespace SchemaDesk

theorem changeFirst_append {α : Type} {p : α → Bool} {as bs : List α} {x : α} (has : ∀ a ∈ as, p a = false)
    (hx : p x = true) (y : α) : changeFirst p y (as ++ x :: bs) = as ++ y :: bs := by
  induction as with
  | nil => simp [changeFirst, hx]
  | cons a as ih =>
    rw [List.forall_mem_cons] at has
    simp [changeFirst, has.1, ih has.2]

/-- An operation of the editor with its arguments. New parts take the identifiers that are given for them. -/
inductive Operation
  | addTable (tableId columnId : Id) (name : GivenName)
  | updateTable (id : Id) (patch : TablePatch)
  | deleteTable (id : Id)
  | addColumn (tableId columnId : Id) (name : GivenName) (patch : ColumnPatch)
  | updateColumn (tableId columnId : Id) (patch : ColumnPatch)
  | deleteColumn (tableId columnId : Id)
  | reorderColumns (tableId : Id) (order : Option (List Id))
  | addRelation (id : Id) (patch : RelationPatch)
  | updateRelation (id : Id) (patch : RelationPatch)
  | deleteRelation (id : Id)

namespace Schema

/-- The schema of an edit, and the schema as it was if there was nothing to edit. -/
def orEdited {α : Type} (s : Schema) (e : Option (Edited α)) : Schema := (e.map (·.schema)).getD s

/-- What an operation makes of the schema. -/
def attempt (s : Schema) : Operation → Except Failure Schema
  | .addTable tableId columnId name => (s.addTable tableId columnId name).map (·.schema)
  | .updateTable id patch => (s.updateTable id patch).map s.orEdited
  | .deleteTable id => .ok (s.deleteTable id)
  | .addColumn tableId columnId name patch => (s.addColumn tableId columnId name patch).map s.orEdited
  | .updateColumn tableId columnId patch => (s.updateColumn tableId columnId patch).map s.orEdited
  | .deleteColumn tableId columnId => .ok (s.deleteColumn tableId columnId)
  | .reorderColumns tableId order => s.reorderColumns tableId order
  | .addRelation id patch => (s.addRelation id patch).map s.orEdited
  | .updateRelation id patch => (s.updateRelation id patch).map s.orEdited
  | .deleteRelation id => .ok (s.deleteRelation id)

/-- The schema after an operation. One that fails leaves it as it was. -/
def after (s : Schema) (o : Operation) : Schema :=
  match s.attempt o with
  | .ok t => t
  | .error _ => s

def afterAll (s : Schema) (os : List Operation) : Schema := os.foldl after s

/-- The schemas that a run reaches, from the first one on. -/
def along (s : Schema) : List Operation → List Schema
  | [] => [s]
  | o :: os => s :: (s.after o).along os

/-- No two relations connect the same columns. -/
def ConnectsOnce (s : Schema) : Prop := s.relations.Pairwise fun r q => ¬ r.Connects q

instance (s : Schema) : Decidable s.ConnectsOnce :=
  decidable_of_iff (s.relations.Pairwise fun r q => ¬ r.sameEndpoints q = true)
    (by simp only [ConnectsOnce, Relation.sameEndpoints_iff])

end Schema

/-- A change of a relation that takes it to the ends of another one. -/
def Operation.ConnectsAgain (s : Schema) : Operation → Prop
  | .updateRelation id patch => ∃ before q behind r, s.relations = before ++ q :: behind ∧
      (∀ b ∈ before, b.id ≠ id) ∧ q.id = id ∧ patch.apply q = .ok r ∧ ∃ b ∈ before ++ behind, b.Connects r
  | _ => False

namespace Schema

variable {s : Schema}

/-! ### The relations after one operation -/

@[simp] theorem relations_setTable (s : Schema) (t : Table) : (s.setTable t).relations = s.relations := rfl

theorem relations_addTable {tableId columnId : Id} {name : GivenName} {e : Edited Table}
    (h : s.addTable tableId columnId name = .ok e) : e.schema.relations = s.relations := by
  rw [addTable] at h
  cases hname : name.read with
  | error f => simp [hname, Except.map] at h
  | ok n =>
    rw [hname] at h
    cases h
    rfl

theorem relations_updateTable {id : Id} {patch : TablePatch} {e : Edited Table}
    (h : s.updateTable id patch = .ok (some e)) : e.schema.relations = s.relations := by
  simp only [updateTable, bind, Except.bind] at h
  split at h
  · cases h
  · split at h
    · cases h
    · split at h
      · cases h
      · split at h
        · cases h
        · cases h
          rfl

theorem relations_addColumn {tableId columnId : Id} {name : GivenName} {patch : ColumnPatch} {e : Edited Column}
    (h : s.addColumn tableId columnId name patch = .ok (some e)) : e.schema.relations = s.relations := by
  simp only [addColumn, bind, Except.bind] at h
  split at h
  · cases h
  · split at h
    · cases h
    · split at h
      · cases h
      · cases h
        rfl

theorem relations_updateColumn {tableId columnId : Id} {patch : ColumnPatch} {e : Edited Column}
    (h : s.updateColumn tableId columnId patch = .ok (some e)) : e.schema.relations = s.relations := by
  simp only [updateColumn, bind, Except.bind] at h
  split at h
  · cases h
  · split at h
    · cases h
    · split at h
      · cases h
      · split at h
        · cases h
        · split at h
          · cases h
          · cases h
            rfl

theorem relations_reorderColumns {tableId : Id} {order : Option (List Id)} {t : Schema}
    (h : s.reorderColumns tableId order = .ok t) : t.relations = s.relations := by
  rw [reorderColumns] at h
  split at h
  · cases h
    rfl
  · split at h
    · cases h
    · cases h
      rfl

theorem relations_deleteColumn_sublist (s : Schema) (tableId columnId : Id) :
    (s.deleteColumn tableId columnId).relations.Sublist s.relations := by
  rw [deleteColumn]
  split
  · exact .refl _
  · exact List.filter_sublist

theorem relations_addRelation {id : Id} {patch : RelationPatch} {e : Edited Relation}
    (h : s.addRelation id patch = .ok (some e)) :
    ∃ r, (∀ q ∈ s.relations, ¬ q.Connects r) ∧ e.schema.relations = s.relations ++ [r] := by
  rw [addRelation] at h
  cases hr : patch.create id with
  | error f => simp [hr, Except.map] at h
  | ok r =>
    simp only [hr, Except.map, Except.ok.injEq] at h
    split at h
    · cases h
    · next hnew =>
      cases h
      refine ⟨r, fun q hq hconnects => hnew ?_, rfl⟩
      exact Relation.existsIn_iff.mpr ⟨q, hq, hconnects⟩

theorem relations_updateRelation {id : Id} {patch : RelationPatch} {e : Edited Relation}
    (h : s.updateRelation id patch = .ok (some e)) :
    ∃ before q behind r, s.relations = before ++ q :: behind ∧ (∀ b ∈ before, b.id ≠ id) ∧ q.id = id ∧
      patch.apply q = .ok r ∧ e.schema.relations = before ++ r :: behind := by
  rw [updateRelation] at h
  split at h
  · cases h
  · next q hfound =>
    obtain ⟨hid, before, behind, hrelations, hbefore⟩ := List.find?_eq_some_iff_append.mp hfound
    cases hr : patch.apply q with
    | error f => simp [hr, Except.map] at h
    | ok r =>
      simp only [hr, Except.map, Except.ok.injEq, Option.some.injEq] at h
      have hbefore : ∀ b ∈ before, (b.id == id) = false := fun b hb => by simpa using hbefore b hb
      refine ⟨before, q, behind, r, hrelations, fun b hb => by simpa using hbefore b hb, by simpa using hid, hr, ?_⟩
      rw [← h]
      simp only [hrelations, changeFirst_append hbefore hid]

theorem attempt_updateRelation {id : Id} {patch : RelationPatch} {before behind : List Relation} {q r : Relation}
    (hrelations : s.relations = before ++ q :: behind) (hbefore : ∀ b ∈ before, b.id ≠ id) (hid : q.id = id)
    (hr : patch.apply q = .ok r) :
    s.attempt (.updateRelation id patch) = .ok { s with relations := before ++ r :: behind } := by
  have hpass : ∀ b ∈ before, (b.id == id) = false := fun b hb => by simpa using hbefore b hb
  have hfound : s.relations.find? (fun q => q.id == id) = some q := by
    rw [hrelations, List.find?_eq_some_iff_append]
    exact ⟨by simpa using hid, before, behind, rfl, fun b hb => by simp [hpass b hb]⟩
  rw [attempt, updateRelation]
  simp only [hfound, hr, Except.map]
  simp [orEdited, hrelations, changeFirst_append hpass (by simpa using hid)]

theorem orEdited_cases {α : Type} {x : Except Failure (Option (Edited α))} {t : Schema}
    (h : x.map s.orEdited = .ok t) : t = s ∨ ∃ e, x = .ok (some e) ∧ t = e.schema := by
  obtain f | (_ | e) := x
  · cases h
  · cases h
    exact Or.inl rfl
  · cases h
    exact Or.inr ⟨e, rfl, rfl⟩

theorem sublist_of_orEdited {α : Type} {x : Except Failure (Option (Edited α))} {t : Schema}
    (hx : ∀ e, x = .ok (some e) → e.schema.relations = s.relations) (h : x.map s.orEdited = .ok t) :
    t.relations.Sublist s.relations := by
  rcases orEdited_cases h with rfl | ⟨e, he, rfl⟩
  · exact .refl _
  · rw [hx e he]

/-- What an operation does to the relations: it takes some of them away, adds one between columns that are not
connected, or exchanges one. -/
theorem attempt_cases {o : Operation} {t : Schema} (h : s.attempt o = .ok t) :
    t.relations.Sublist s.relations ∨
    (∃ r, (∀ q ∈ s.relations, ¬ q.Connects r) ∧ t.relations = s.relations ++ [r]) ∨
    ∃ id patch before q behind r, o = .updateRelation id patch ∧ s.relations = before ++ q :: behind ∧
      (∀ b ∈ before, b.id ≠ id) ∧ q.id = id ∧ patch.apply q = .ok r ∧ t.relations = before ++ r :: behind := by
  cases o with
  | addTable tableId columnId name =>
    rw [attempt] at h
    cases hadd : s.addTable tableId columnId name with
    | error f =>
      rw [hadd] at h
      cases h
    | ok e =>
      rw [hadd] at h
      cases h
      exact Or.inl (by rw [relations_addTable hadd])
  | updateTable id patch => exact Or.inl (sublist_of_orEdited (fun e => relations_updateTable) h)
  | deleteTable id =>
    cases h
    exact Or.inl List.filter_sublist
  | addColumn tableId columnId name patch => exact Or.inl (sublist_of_orEdited (fun e => relations_addColumn) h)
  | updateColumn tableId columnId patch => exact Or.inl (sublist_of_orEdited (fun e => relations_updateColumn) h)
  | deleteColumn tableId columnId =>
    cases h
    exact Or.inl (relations_deleteColumn_sublist s tableId columnId)
  | reorderColumns tableId order => exact Or.inl (by rw [relations_reorderColumns h])
  | addRelation id patch =>
    rcases orEdited_cases h with rfl | ⟨e, he, rfl⟩
    · exact Or.inl (.refl _)
    · exact Or.inr (Or.inl (relations_addRelation he))
  | updateRelation id patch =>
    rcases orEdited_cases h with rfl | ⟨e, he, rfl⟩
    · exact Or.inl (.refl _)
    · obtain ⟨before, q, behind, r, hparts⟩ := relations_updateRelation he
      exact Or.inr (Or.inr ⟨id, patch, before, q, behind, r, rfl, hparts⟩)
  | deleteRelation id =>
    cases h
    exact Or.inl List.filter_sublist

/-! ### Columns that are connected once -/

theorem ConnectsOnce.of_sublist (h : s.ConnectsOnce) {t : Schema} (hsub : t.relations.Sublist s.relations) :
    t.ConnectsOnce :=
  List.Pairwise.sublist hsub h

/-- With one relation exchanged, the columns are connected once if the new one connects others than the rest. -/
theorem pairwise_exchange_iff {before behind : List Relation} {q r : Relation}
    (h : (before ++ q :: behind).Pairwise fun r q => ¬ r.Connects q) :
    ((before ++ r :: behind).Pairwise fun r q => ¬ r.Connects q) ↔ ∀ b ∈ before ++ behind, ¬ b.Connects r := by
  have hrest : (before ++ behind).Pairwise fun r q => ¬ r.Connects q :=
    h.sublist ((List.Sublist.refl _).append (List.sublist_cons_self _ _))
  rw [List.perm_middle.pairwise_iff (fun hne hconnects => hne hconnects.symm), List.pairwise_cons]
  constructor
  · exact fun hnew b hb hconnects => hnew.1 b hb hconnects.symm
  · exact fun hnew => ⟨fun b hb hconnects => hnew b hb hconnects.symm, hrest⟩

/-- An operation keeps such a schema unless it is a change of a relation that connects again. -/
theorem connectsOnce_after_iff (h : s.ConnectsOnce) (o : Operation) :
    (s.after o).ConnectsOnce ↔ ¬ o.ConnectsAgain s := by
  constructor
  · intro hafter hagain
    cases o with
    | updateRelation id patch =>
      obtain ⟨before, q, behind, r, hrelations, hbefore, hid, hr, b, hb, hconnects⟩ := hagain
      rw [ConnectsOnce, hrelations] at h
      rw [after, attempt_updateRelation hrelations hbefore hid hr] at hafter
      exact (pairwise_exchange_iff h).mp hafter b hb hconnects
    | _ => exact hagain
  · intro hagain
    rw [after]
    cases ht : s.attempt o with
    | error f => exact h
    | ok t =>
      rcases attempt_cases ht with hsub | ⟨r, hnew, hadd⟩ |
        ⟨id, patch, before, q, behind, r, rfl, hrelations, hbefore, hid, hr, hchanged⟩
      · exact h.of_sublist hsub
      · rw [ConnectsOnce, hadd, List.pairwise_append]
        exact ⟨h, List.pairwise_singleton _ _, fun q hq x hx => List.mem_singleton.mp hx ▸ hnew q hq⟩
      · rw [ConnectsOnce, hrelations] at h
        rw [ConnectsOnce, hchanged, pairwise_exchange_iff h]
        exact fun b hb hconnects => hagain ⟨before, q, behind, r, hrelations, hbefore, hid, hr, b, hb, hconnects⟩

/-- A change that leaves the ends of a relation alone does not connect them again. -/
theorem not_connectsAgain_of_sameEnds (h : s.ConnectsOnce) (id : Id) {patch : RelationPatch}
    (hsource : patch.sourceTableId = none ∧ patch.sourceColumnId = none)
    (htarget : patch.targetTableId = none ∧ patch.targetColumnId = none) :
    ¬ (Operation.updateRelation id patch).ConnectsAgain s := by
  rintro ⟨before, q, behind, r, hrelations, -, -, hr, b, hb, hconnects⟩
  have hends : r.source = q.source ∧ r.target = q.target := by
    rw [RelationPatch.apply] at hr
    split at hr
    · cases hr
    · cases hr
      simp [Relation.source, Relation.target, hsource, htarget]
  have hq : b.Connects q := by rwa [Relation.Connects, hends.1, hends.2] at hconnects
  rw [ConnectsOnce, hrelations] at h
  exact (pairwise_exchange_iff h).mp h b hb hq

/-! ### Runs -/

@[simp] theorem afterAll_cons (s : Schema) (o : Operation) (os : List Operation) :
    s.afterAll (o :: os) = (s.after o).afterAll os := rfl

/-- The columns are connected once along a whole run exactly if none of its operations connects them again. -/
theorem connectsOnce_along_iff (h : s.ConnectsOnce) (os : List Operation) :
    (∀ t ∈ s.along os, t.ConnectsOnce) ↔
      ∀ before o after, os = before ++ o :: after → ¬ o.ConnectsAgain (s.afterAll before) := by
  induction os generalizing s with
  | nil => simp [along, h]
  | cons o os ih =>
    have hsteps : (∀ before p after, o :: os = before ++ p :: after → ¬ p.ConnectsAgain (s.afterAll before)) ↔
        ¬ o.ConnectsAgain s ∧
          ∀ before p after, os = before ++ p :: after → ¬ p.ConnectsAgain ((s.after o).afterAll before) := by
      constructor
      · exact fun hall => ⟨hall [] o os rfl, fun before p after heq => hall (o :: before) p after (by rw [heq]; rfl)⟩
      · rintro ⟨hfirst, hrest⟩ before p after heq
        cases before with
        | nil =>
          obtain ⟨rfl, -⟩ := List.cons.inj heq
          exact hfirst
        | cons b before =>
          obtain ⟨rfl, rfl⟩ := List.cons.inj heq
          exact hrest before p after rfl
    rw [along, List.forall_mem_cons, hsteps, and_iff_right h]
    constructor
    · intro hrest
      have hafter : (s.after o).ConnectsOnce := by
        cases os <;> exact hrest _ (by simp [along])
      exact ⟨(connectsOnce_after_iff h o).mp hafter, (ih hafter).mp hrest⟩
    · rintro ⟨hfirst, hrest⟩
      exact (ih ((connectsOnce_after_iff h o).mpr hfirst)).mpr hrest

/-- A table with two relations from its first column. -/
def star : Schema where
  tables := [{
    id := .named "t"
    name := "t"
    columns := [
      { id := .named "a", name := "a" }, { id := .named "b", name := "b" }, { id := .named "c", name := "c" }] }]
  relations := [
    { id := .named "r1", sourceTableId := .named "t", sourceColumnId := .named "a", targetTableId := .named "t",
      targetColumnId := .named "b" },
    { id := .named "r2", sourceTableId := .named "t", sourceColumnId := .named "a", targetTableId := .named "t",
      targetColumnId := .named "c" }]

/-- The change of the second relation that takes it to the end of the first one. -/
def starChange : Operation := .updateRelation (.named "r2") { targetColumnId := some (.named "b") }

theorem connectsOnce_along_star : star.ConnectsOnce ∧
    ∀ before o after, [.deleteRelation (.named "r1"), starChange] = before ++ o :: after →
      ¬ o.ConnectsAgain (star.afterAll before) :=
  ⟨by decide, (connectsOnce_along_iff (by decide) _).mp (by decide)⟩

theorem star_connects_twice : star.ConnectsOnce ∧ ∃ t ∈ star.along [starChange], ¬ t.ConnectsOnce := by
  decide

end Schema

end SchemaDesk
