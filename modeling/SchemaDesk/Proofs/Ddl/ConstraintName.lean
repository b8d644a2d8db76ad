import Mathlib.Data.List.Forall2
import Mathlib.Data.List.Nodup
import SchemaDesk.Proofs.Schema.Named
import SchemaDesk.Proofs.Schema.Operation
/-!
The names of foreign key constraints. A name joins the names of the table and of the column where a relation starts;
the ends of the relation do not come in. So relations that start at one column share a name, and so do relations
whose tables and columns have names that differ only in the underscore at which the joined text is divided.
-/

namespace SchemaDesk

/-- A text that is joined at an underscore, `table` and `column` at an earlier one than `table'` and `column'`. -/
def DividedEarlier (table column table' column' : String) : Prop :=
  ∃ middle, table' = table ++ "_" ++ middle ∧ column = middle ++ "_" ++ column'

theorem dividedEarlier_of_toList {t c t' c' : String} {middle : List Char}
    (htable : t'.toList = t.toList ++ '_' :: middle) (hcolumn : c.toList = middle ++ '_' :: c'.toList) :
    DividedEarlier t c t' c' :=
  ⟨String.ofList middle, String.toList_inj.mp (by simp [htable]), String.toList_inj.mp (by simp [hcolumn])⟩

/-- Two names join to one text only if they are the same names or divide it at different underscores. -/
theorem joined_eq_joined_iff {t c t' c' : String} :
    t ++ "_" ++ c = t' ++ "_" ++ c' ↔
      (t = t' ∧ c = c') ∨ DividedEarlier t c t' c' ∨ DividedEarlier t' c' t c := by
  constructor
  · intro h
    have hchars : t.toList ++ '_' :: c.toList = t'.toList ++ '_' :: c'.toList := by
      simpa using congrArg String.toList h
    rcases List.append_eq_append_iff.mp hchars with ⟨gap, htable, hcolumn⟩ | ⟨gap, htable, hcolumn⟩
    · cases gap with
      | nil =>
        rw [List.append_nil] at htable
        exact Or.inl ⟨String.toList_inj.mp htable.symm, String.toList_inj.mp (List.cons.inj hcolumn).2⟩
      | cons x middle =>
        rw [List.cons_append, List.cons.injEq] at hcolumn
        obtain ⟨rfl, hcolumn⟩ := hcolumn
        exact Or.inr (Or.inl (dividedEarlier_of_toList htable hcolumn))
    · cases gap with
      | nil =>
        rw [List.append_nil] at htable
        exact Or.inl ⟨String.toList_inj.mp htable, String.toList_inj.mp (List.cons.inj hcolumn).2.symm⟩
      | cons x middle =>
        rw [List.cons_append, List.cons.injEq] at hcolumn
        obtain ⟨rfl, hcolumn⟩ := hcolumn
        exact Or.inr (Or.inr (dividedEarlier_of_toList htable hcolumn))
  · rintro (⟨rfl, rfl⟩ | ⟨middle, rfl, rfl⟩ | ⟨middle, rfl, rfl⟩) <;> simp [String.append_assoc]

namespace Relation

/-- The name of the constraint, if both ends exist. -/
def constraintName? (r : Relation) (tables : List Table) : Option String := (r.ends? tables).map (·.constraintName)

/-- The statements on both give their constraints the same name: the relations start at the same column, or at columns
whose names divide the name at different underscores. -/
def SharesName (tables : List Table) (r q : Relation) : Prop :=
  ∃ e e', r.ends? tables = some e ∧ q.ends? tables = some e' ∧
    (r.source = q.source ∨
      DividedEarlier e.sourceTable.name e.sourceColumn.name e'.sourceTable.name e'.sourceColumn.name ∨
      DividedEarlier e'.sourceTable.name e'.sourceColumn.name e.sourceTable.name e.sourceColumn.name)

theorem Ends.constraintName_eq_iff {e e' : Ends} : e.constraintName = e'.constraintName ↔
    (e.sourceTable.name = e'.sourceTable.name ∧ e.sourceColumn.name = e'.sourceColumn.name) ∨
      DividedEarlier e.sourceTable.name e.sourceColumn.name e'.sourceTable.name e'.sourceColumn.name ∨
      DividedEarlier e'.sourceTable.name e'.sourceColumn.name e.sourceTable.name e.sourceColumn.name := by
  rw [← joined_eq_joined_iff, constraintName, constraintName, String.append_assoc, String.append_assoc,
    String.append_assoc, String.append_assoc, String.append_right_inj, ← String.append_assoc, ← String.append_assoc]

theorem sharesName_iff {tables : List Table} (h : DistinctlyNamed tables) {r q : Relation} :
    r.SharesName tables q ↔
      ∃ name, r.constraintName? tables = some name ∧ q.constraintName? tables = some name := by
  have hsource {e e' : Ends} (he : r.ends? tables = some e) (he' : q.ends? tables = some e') :
      r.source = q.source ↔
        e.sourceTable.name = e'.sourceTable.name ∧ e.sourceColumn.name = e'.sourceColumn.name := by
    rw [h.endpoint_eq_iff (ends?_eq_some_iff.mp he).1 (ends?_eq_some_iff.mp he').1, Prod.mk.injEq]
  constructor
  · rintro ⟨e, e', he, he', hshared⟩
    rw [hsource he he', ← Ends.constraintName_eq_iff] at hshared
    exact ⟨e'.constraintName, by simp [constraintName?, he, hshared], by simp [constraintName?, he']⟩
  · rintro ⟨name, hr, hq⟩
    obtain ⟨e, he, rfl⟩ := Option.map_eq_some_iff.mp hr
    obtain ⟨e', he', hname⟩ := Option.map_eq_some_iff.mp hq
    refine ⟨e, e', he, he', ?_⟩
    rw [hsource he he', ← Ends.constraintName_eq_iff, hname]

end Relation

namespace Schema

/-- The names of the constraints that the statements on relations add. -/
def constraintNames (s : Schema) : List String := s.relations.filterMap (·.constraintName? s.tables)

/-- The statement adds a constraint of that name to some table. -/
def AddsConstraint (statement name : String) : Prop :=
  ∃ table clauses, statement =
    "ALTER TABLE " ++ table ++ "\n" ++ indent ++ "ADD CONSTRAINT " ++ name ++ "\n" ++ clauses

theorem addsConstraint_script {e : Relation.Ends} (onDelete onUpdate : Option String) :
    AddsConstraint ("ALTER TABLE " ++ e.sourceTable.name ++ "\n" ++
      indent ++ "ADD CONSTRAINT " ++ e.constraintName ++ "\n" ++
      indent ++ "FOREIGN KEY (" ++ e.sourceColumn.name ++ ")\n" ++
      indent ++ "REFERENCES " ++ e.targetTable.name ++ "(" ++ e.targetColumn.name ++ ")" ++
      Relation.actionClause "DELETE" onDelete ++ Relation.actionClause "UPDATE" onUpdate ++ ";")
      e.constraintName :=
  ⟨e.sourceTable.name, indent ++ "FOREIGN KEY (" ++ e.sourceColumn.name ++ ")\n" ++
      indent ++ "REFERENCES " ++ e.targetTable.name ++ "(" ++ e.targetColumn.name ++ ")" ++
      Relation.actionClause "DELETE" onDelete ++ Relation.actionClause "UPDATE" onUpdate ++ ";",
    by simp only [String.append_assoc]⟩

theorem forall₂_addsConstraint (s : Schema) : List.Forall₂ AddsConstraint s.foreignKeys s.constraintNames := by
  rw [foreignKeys, constraintNames]
  induction s.relations with
  | nil => exact .nil
  | cons r rs ih =>
    rw [List.filterMap_cons, List.filterMap_cons]
    cases he : r.ends? s.tables with
    | none => simpa [Relation.script?, Relation.constraintName?, he] using ih
    | some e =>
      simp only [Relation.script?, Relation.constraintName?, he, Option.map_some]
      exact .cons (addsConstraint_script r.onDelete r.onUpdate) ih

/-- The constraints that a script adds have different names if and only if no two of its relations start at the same
column or at columns whose names divide one text at different underscores. -/
theorem nodup_constraintNames_iff {s : Schema} (h : DistinctlyNamed s.tables) :
    List.Forall₂ AddsConstraint s.foreignKeys s.constraintNames ∧
      (s.constraintNames.Nodup ↔ s.relations.Pairwise fun r q => ¬ r.SharesName s.tables q) := by
  refine ⟨s.forall₂_addsConstraint, ?_⟩
  rw [constraintNames, List.Nodup, List.pairwise_filterMap]
  refine List.Pairwise.iff fun r q => ?_
  rw [Relation.sharesName_iff h]
  constructor
  · rintro hapart ⟨name, hr, hq⟩
    exact hapart name hr name hq rfl
  · rintro hnone name hr name' hq rfl
    exact hnone ⟨name, hr, hq⟩

/-- Orders refer to their user and to the address of a delivery. -/
def deliveries : Schema :=
  { tables := [
      { id := .fresh 0, name := "users", columns := [{ id := .fresh 1, name := "id" }] },
      { id := .fresh 2, name := "orders", columns := [
          { id := .fresh 3, name := "user_id" }, { id := .fresh 4, name := "address" }] }]
    relations := [
      { id := .fresh 5, sourceTableId := .fresh 2, sourceColumnId := .fresh 3, targetTableId := .fresh 0
        targetColumnId := .fresh 1 },
      { id := .fresh 6, sourceTableId := .fresh 2, sourceColumnId := .fresh 4, targetTableId := .fresh 0
        targetColumnId := .fresh 1 }] }

theorem nodup_constraintNames_deliveries :
    DistinctlyNamed deliveries.tables ∧
      List.Forall₂ AddsConstraint deliveries.foreignKeys deliveries.constraintNames ∧
      deliveries.constraintNames = ["fk_orders_user_id", "fk_orders_address"] ∧
      deliveries.relations.Pairwise fun r q => ¬ r.SharesName deliveries.tables q := by
  have hnamed : DistinctlyNamed deliveries.tables := ⟨by decide +kernel, by decide +kernel⟩
  obtain ⟨hadds, hapart⟩ := nodup_constraintNames_iff hnamed
  exact ⟨hnamed, hadds, by decide +kernel, hapart.mp (by decide +kernel)⟩

/-- Two relations start at one column, and a third one at a column whose name is a part of that of its table. -/
def crossing : Schema :=
  { tables := [
      { id := .fresh 0, name := "a", columns := [{ id := .fresh 1, name := "b_c" }] },
      { id := .fresh 2, name := "a_b", columns := [{ id := .fresh 3, name := "c" }] },
      { id := .fresh 4, name := "t", columns := [{ id := .fresh 5, name := "x" }, { id := .fresh 6, name := "y" }] }]
    relations := [
      { id := .fresh 7, sourceTableId := .fresh 0, sourceColumnId := .fresh 1, targetTableId := .fresh 4
        targetColumnId := .fresh 5 },
      { id := .fresh 8, sourceTableId := .fresh 0, sourceColumnId := .fresh 1, targetTableId := .fresh 4
        targetColumnId := .fresh 6 },
      { id := .fresh 9, sourceTableId := .fresh 2, sourceColumnId := .fresh 3, targetTableId := .fresh 4
        targetColumnId := .fresh 5 }] }

/-- All three relations of a schema with distinct names, no two of them between the same columns, have one name. -/
theorem constraintNames_crossing :
    DistinctlyNamed crossing.tables ∧ crossing.ConnectsOnce ∧
      crossing.constraintNames = ["fk_a_b_c", "fk_a_b_c", "fk_a_b_c"] ∧ ¬ crossing.constraintNames.Nodup :=
  ⟨⟨by decide +kernel, by decide +kernel⟩, by decide +kernel, by decide +kernel, by decide +kernel⟩

end Schema

end SchemaDesk
