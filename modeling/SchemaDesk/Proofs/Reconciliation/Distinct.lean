import Mathlib.Data.List.Pairwise
import SchemaDesk.Proofs.Reconciliation.Repetition
/-!
The identifiers after an edit. No two tables get one identifier. Columns do when the edited script writes the
name of an old column twice in one table, since nothing keeps track of the columns that were taken over.
-/

namespace SchemaDesk

namespace Reconciliation

/-- No two columns of the new table have the name of one column of the old table. -/
def TakesEachOnce (o n : Table) : Prop :=
  n.columns.Pairwise fun c c' => Text.lower c.name = Text.lower c'.name → o.findColumn? c.name = none

theorem id_mergeColumn (o : Table) (c : Column) :
    (mergeColumn o c).id = ((o.findColumn? c.name).map (·.id)).getD c.id := by
  unfold mergeColumn
  cases o.findColumn? c.name <;> rfl

theorem findColumn?_mem {o : Table} {name : String} {b : Column} (h : o.findColumn? name = some b) :
    b ∈ o.columns ∧ Text.lower b.name = Text.lower name :=
  ⟨List.mem_of_find?_eq_some h, by simpa [Text.sameName] using List.find?_some h⟩

theorem findColumn?_congr {o : Table} {s s' : String} (h : Text.lower s = Text.lower s') :
    o.findColumn? s = o.findColumn? s' := by
  simp only [Table.findColumn?, Text.sameName, h]

/-- Two columns get one identifier if they have the name of one old column, and only then. -/
theorem id_mergeColumn_ne_iff {o : Table} {c c' : Column} (hold : (o.columns.map (·.id)).Nodup)
    (hc : ∀ b ∈ o.columns, b.id ≠ c.id) (hc' : ∀ b ∈ o.columns, b.id ≠ c'.id) (hne : c.id ≠ c'.id) :
    (mergeColumn o c).id ≠ (mergeColumn o c').id ↔
      (Text.lower c.name = Text.lower c'.name → o.findColumn? c.name = none) := by
  rw [id_mergeColumn, id_mergeColumn]
  cases hfind : o.findColumn? c.name with
  | none =>
    cases hfind' : o.findColumn? c'.name with
    | none => simpa using hne
    | some b => simpa using (hc b (findColumn?_mem hfind').1).symm
  | some b =>
    obtain ⟨hb, hname⟩ := findColumn?_mem hfind
    cases hfind' : o.findColumn? c'.name with
    | none =>
      have hdifferent : Text.lower c.name ≠ Text.lower c'.name := fun heq => by
        rw [findColumn?_congr heq, hfind'] at hfind
        cases hfind
      simpa [hdifferent] using hc' b hb
    | some b' =>
      obtain ⟨hb', hname'⟩ := findColumn?_mem hfind'
      have hsame : b.id = b'.id ↔ Text.lower c.name = Text.lower c'.name := by
        constructor
        · intro hid
          obtain rfl := List.inj_on_of_nodup_map hold hb hb' hid
          exact hname.symm.trans hname'
        · intro heq
          rw [findColumn?_congr heq, hfind'] at hfind
          rw [Option.some.inj hfind]
      simpa using not_congr hsame

/-- The columns of a table that takes over another one differ in their identifiers as long as none is taken
over twice. -/
theorem nodup_mergeColumns_iff {o n : Table} (hold : (o.columns.map (·.id)).Nodup) (hnew : (n.columns.map (·.id)).Nodup)
    (hdisjoint : ∀ b ∈ o.columns, ∀ c ∈ n.columns, b.id ≠ c.id) :
    ((mergeTable (some o) n).columns.map (·.id)).Nodup ↔ TakesEachOnce o n := by
  have hcolumns : (mergeTable (some o) n).columns = n.columns.map (mergeColumn o) := rfl
  rw [List.Nodup, List.pairwise_map] at hnew
  rw [hcolumns, List.map_map, List.Nodup, List.pairwise_map, TakesEachOnce]
  have hiff {c c' : Column} (hc : c ∈ n.columns) (hc' : c' ∈ n.columns) (hne : c.id ≠ c'.id) :=
    id_mergeColumn_ne_iff hold (fun b hb => hdisjoint b hb c hc) (fun b hb => hdisjoint b hb c' hc') hne
  constructor
  · exact fun h => (hnew.and h).imp_of_mem fun hc hc' hboth => (hiff hc hc' hboth.1).mp hboth.2
  · exact fun h => (hnew.and h).imp_of_mem fun hc hc' hboth => (hiff hc hc' hboth.1).mpr hboth.2

/-- A column of the outcome has the identifier of a new column, or that of a column of the old table that was
taken over. -/
theorem mem_columns_mergeTable {o? : Option Table} {n : Table} {id : Id}
    (h : id ∈ (mergeTable o? n).columns.map (·.id)) :
    id ∈ n.columns.map (·.id) ∨ ∃ o, o? = some o ∧ id ∈ o.columns.map (·.id) := by
  cases o? with
  | none => exact Or.inl h
  | some o =>
    obtain ⟨c', hc', rfl⟩ := List.mem_map.mp h
    obtain ⟨c, hc, rfl⟩ := List.mem_map.mp hc'
    rw [id_mergeColumn]
    cases hfind : o.findColumn? c.name with
    | none => exact Or.inl (List.mem_map_of_mem hc)
    | some b => exact Or.inr ⟨o, rfl, List.mem_map_of_mem (findColumn?_mem hfind).1⟩

/-- In a schema whose columns have identifiers of their own, a column is in one table. -/
theorem table_eq_of_columnId {s : Schema} (h : s.columnIds.Nodup) {t u : Table} (ht : t ∈ s.tables) (hu : u ∈ s.tables)
    {id : Id} (hid : id ∈ t.columns.map (·.id)) (hid' : id ∈ u.columns.map (·.id)) : t = u := by
  by_contra hne
  have hsymm : Std.Symm (Function.onFun List.Disjoint fun t : Table => t.columns.map (·.id)) := 
    ⟨fun _ _ h _ hu ht => h ht hu⟩
  exact (List.nodup_flatMap.mp h).2.forall ht hu hne hid hid'

/-- The tables of the outcome have identifiers of their own. So have its columns, unless a table of the edited
script takes over some column twice. -/
theorem nodup_reconcile_iff (old new : Schema) (names : List String) (htables : (old.tableIds ++ new.tableIds).Nodup)
    (hcolumns : (old.columnIds ++ new.columnIds).Nodup) :
    (old.reconcile names new).schema.tableIds.Nodup ∧
      ((old.reconcile names new).schema.columnIds.Nodup ↔
        ∀ i o n, Takes old.tables names new.tables i o → new.tables[i]? = some n → TakesEachOnce o n) := by
  obtain ⟨hold, hnew, hapart⟩ := List.nodup_append.mp htables
  obtain ⟨holdColumns, hnewColumns, hcolumnsApart⟩ := List.nodup_append.mp hcolumns
  have hlength : (old.reconcile names new).schema.tables.length = new.tables.length := by
    obtain ⟨hlength, -⟩ := matching_spec hold names new.tables
    simp [Schema.reconcile, hlength]
  have hmem {s : Schema} {t : Table} (ht : t ∈ s.tables) {id : Id} (hid : id ∈ t.columns.map (·.id)) : id ∈ s.columnIds :=
    List.mem_flatMap.mpr ⟨t, ht, hid⟩
  have hmerged {o n : Table} (ho : o ∈ old.tables) (hn : n ∈ new.tables) :
      ((mergeTable (some o) n).columns.map (·.id)).Nodup ↔ TakesEachOnce o n :=
    nodup_mergeColumns_iff ((List.nodup_flatMap.mp holdColumns).1 o ho) ((List.nodup_flatMap.mp hnewColumns).1 n hn)
      fun b hb c hc => hcolumnsApart _ (hmem ho (List.mem_map_of_mem hb)) _ (hmem hn (List.mem_map_of_mem hc))
  refine ⟨nodup_tableIds_reconcile hold hnew (fun o ho n hn => hapart _ (List.mem_map_of_mem ho) _ (List.mem_map_of_mem hn))
    names, ?_⟩
  constructor
  · intro hnodup i o n ho hn
    obtain ⟨hi, -⟩ := List.getElem?_eq_some_iff.mp hn
    have ht := List.getElem?_eq_getElem (hlength.symm ▸ hi)
    rcases getElem?_reconcile hold hn ht with ⟨o', ho', heq⟩ | ⟨hnone, -⟩
    · obtain rfl := ho.unique ho'
      rw [← hmerged ho.mem (List.mem_of_getElem? hn), ← heq]
      exact (List.nodup_flatMap.mp hnodup).1 _ (List.mem_of_getElem? ht)
    · exact (hnone o ho).elim
  · intro honce
    refine List.nodup_flatMap.mpr ⟨fun t ht => ?_, List.pairwise_iff_getElem.mpr fun i j hi hj hij id hid hid' => ?_⟩
    · obtain ⟨i, hi⟩ := List.getElem?_of_mem ht
      obtain ⟨hlt, -⟩ := List.getElem?_eq_some_iff.mp hi
      have hn := List.getElem?_eq_getElem (hlength ▸ hlt)
      have hnmem := List.mem_of_getElem? hn
      rcases getElem?_reconcile hold hn hi with ⟨o, ho, rfl⟩ | ⟨-, rfl⟩
      · exact (hmerged ho.mem hnmem).mpr (honce i o _ ho hn)
      · exact (List.nodup_flatMap.mp hnewColumns).1 _ hnmem
    · have hni := List.getElem?_eq_getElem (hlength ▸ hi)
      have hnj := List.getElem?_eq_getElem (hlength ▸ hj)
      -- each identifier comes from the new table at its place or from the old table taken over there
      have horigin {k : Nat} (hk : k < (old.reconcile names new).schema.tables.length) {n : Table}
          (hn : new.tables[k]? = some n)
          (hid : id ∈ ((old.reconcile names new).schema.tables[k]).columns.map (·.id)) :
          id ∈ n.columns.map (·.id) ∨ ∃ o, Takes old.tables names new.tables k o ∧ id ∈ o.columns.map (·.id) := by
        rcases getElem?_reconcile hold hn (List.getElem?_eq_getElem hk) with ⟨o, ho, heq⟩ | ⟨-, heq⟩
        · rw [heq] at hid
          rcases mem_columns_mergeTable hid with hid | ⟨o', ho', hid⟩
          · exact Or.inl hid
          · exact Or.inr ⟨o, ho, Option.some.inj ho' ▸ hid⟩
        · exact Or.inl (heq ▸ hid)
      rcases horigin hi hni hid with hid | ⟨o, ho, hid⟩ <;> rcases horigin hj hnj hid' with hid' | ⟨o', ho', hid'⟩
      · exact List.pairwise_iff_getElem.mp (List.nodup_flatMap.mp hnewColumns).2 i j _ _ hij hid hid'
      · exact hcolumnsApart _ (hmem ho'.mem hid') _ (hmem (List.mem_of_getElem? hni) hid) rfl
      · exact hcolumnsApart _ (hmem ho.mem hid) _ (hmem (List.mem_of_getElem? hnj) hid') rfl
      · obtain rfl := table_eq_of_columnId holdColumns ho.mem ho'.mem hid hid'
        exact Nat.ne_of_lt hij (ho.place_unique ho')

/-- Two columns of an edited script that both have the name of one old column take over its identifier. -/
theorem column_taken_over_twice :
    let old : Schema := { tables := [{ id := .named "o", name := "t", columns := [{ id := .named "oa", name := "a" }] }] }
    let new : Schema := { tables := [{ id := .named "n", name := "t", columns := [
      { id := .named "n1", name := "a" }, { id := .named "n2", name := "A" }] }] }
    (old.tableIds ++ new.tableIds).Nodup ∧ (old.columnIds ++ new.columnIds).Nodup ∧
      ¬ (old.reconcile ["t"] new).schema.columnIds.Nodup := by
  decide

/-- A column of another name beside the old one keeps its own identifier. -/
theorem nodup_reconcile_added_column :
    let old : Schema := { tables := [{ id := .named "o", name := "t", columns := [{ id := .named "oa", name := "a" }] }] }
    let new : Schema := { tables := [{ id := .named "n", name := "T", columns := [
      { id := .named "n1", name := "A" }, { id := .named "n2", name := "b" }] }] }
    (old.tableIds ++ new.tableIds).Nodup ∧ (old.columnIds ++ new.columnIds).Nodup ∧
      (old.reconcile ["t"] new).schema.tableIds.Nodup ∧ ((old.reconcile ["t"] new).schema.columnIds.Nodup ↔
        ∀ i o n, Takes old.tables ["t"] new.tables i o → new.tables[i]? = some n → TakesEachOnce o n) :=
  ⟨by decide, by decide, nodup_reconcile_iff _ _ _ (by decide) (by decide)⟩

end Reconciliation

end SchemaDesk
