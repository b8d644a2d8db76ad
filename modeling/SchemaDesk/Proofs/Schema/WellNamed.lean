import SchemaDesk.Proofs.Naming
import SchemaDesk.Proofs.Schema.Identifier
import SchemaDesk.Proofs.Schema.Reorder
import SchemaDesk.Proofs.Schema.Run
import SchemaDesk.Proofs.Schema.Step
/-!
Names in runs of the editor. A name that the editor gives is never empty and is free among the other tables, or among
the other columns of the table. So tables and columns can be told apart by their names as long as new parts get new
identifiers.
-/

namespace SchemaDesk

/-- The parts can be told apart by their identifiers and by their names, whatever the letter case, and each of them
has a name. -/
structure ToldApart {α : Type} (idOf : α → Id) (nameOf : α → String) (xs : List α) : Prop where
  ids : (xs.map idOf).Nodup
  names : (xs.map fun x => Text.lower (nameOf x)).Nodup
  named : ∀ x ∈ xs, nameOf x ≠ ""

namespace ToldApart

variable {α : Type} {idOf : α → Id} {nameOf : α → String} {xs ys : List α} {x y : α}

instance (idOf : α → Id) (nameOf : α → String) (xs : List α) : Decidable (ToldApart idOf nameOf xs) :=
  decidable_of_iff ((xs.map idOf).Nodup ∧ (xs.map fun x => Text.lower (nameOf x)).Nodup ∧ ∀ x ∈ xs, nameOf x ≠ "")
    ⟨fun h => ⟨h.1, h.2.1, h.2.2⟩, fun h => ⟨h.ids, h.names, h.named⟩⟩

theorem sublist (h : ToldApart idOf nameOf xs) (hys : ys.Sublist xs) : ToldApart idOf nameOf ys :=
  ⟨h.ids.sublist (hys.map _), h.names.sublist (hys.map _), fun x hx => h.named x (hys.subset hx)⟩

theorem perm (h : ToldApart idOf nameOf xs) (hys : ys.Perm xs) : ToldApart idOf nameOf ys :=
  ⟨(hys.map _).nodup_iff.mpr h.ids, (hys.map _).nodup_iff.mpr h.names, fun x hx => h.named x (hys.subset hx)⟩

/-- A part with a new identifier and a free name can be told apart, too. -/
theorem cons (h : ToldApart idOf nameOf xs) (hid : idOf x ∉ xs.map idOf) (hname : nameOf x ≠ "")
    (hfree : Naming.isFree (xs.map nameOf) (nameOf x) = true) : ToldApart idOf nameOf (x :: xs) where
  ids := List.nodup_cons.mpr ⟨hid, h.ids⟩
  names := by
    refine List.nodup_cons.mpr ⟨fun htaken => ?_, h.names⟩
    obtain ⟨z, hz, heq⟩ := List.mem_map.mp htaken
    exact Naming.isFree_iff.mp hfree (nameOf z) (List.mem_map_of_mem hz) heq
  named := List.forall_mem_cons.mpr ⟨hname, h.named⟩

theorem concat (h : ToldApart idOf nameOf xs) (hid : idOf x ∉ xs.map idOf) (hname : nameOf x ≠ "")
    (hfree : Naming.isFree (xs.map nameOf) (nameOf x) = true) : ToldApart idOf nameOf (xs ++ [x]) :=
  (h.cons hid hname hfree).perm (List.perm_append_singleton x xs)

/-- So can a part that keeps its identifier, and keeps its name or gets one that is free among the others. -/
theorem exchange {id : Id} (h : ToldApart idOf nameOf xs) (hx : Exchanges idOf id x y xs ys) (hid : idOf y = idOf x)
    (hname : nameOf y = nameOf x ∨
      nameOf y ≠ "" ∧ Naming.isFree ((xs.filter fun z => idOf z != id).map nameOf) (nameOf y) = true) :
    ToldApart idOf nameOf ys := by
  rcases hname with hname | ⟨hne, hfree⟩
  · refine ⟨hx.map_eq hid ▸ h.ids, ?_, hx.forall_mem h.named (hname ▸ h.named x hx.mem_left)⟩
    rw [hx.map_eq (congrArg Text.lower hname)]
    exact h.names
  · obtain ⟨before, after, rfl, -, hxid, rfl⟩ := hx
    have hothers : ToldApart idOf nameOf (x :: (before ++ after)) := h.perm List.perm_middle.symm
    have hxs : idOf x ∉ (before ++ after).map idOf := (List.nodup_cons.mp hothers.ids).1
    -- The names that are looked at are those of all other parts.
    have hfilter : (before ++ x :: after).filter (fun z => idOf z != id) = before ++ after := by
      rw [List.filter_append, List.filter_cons_of_neg (by simp [hxid]), ← List.filter_append, List.filter_eq_self]
      intro z hz
      have hne : idOf z ≠ idOf x := fun heq => hxs (heq ▸ List.mem_map_of_mem hz)
      simpa [hxid] using hne
    rw [hfilter] at hfree
    exact ((hothers.sublist (List.sublist_cons_self _ _)).cons (hid ▸ hxs) hne hfree).perm List.perm_middle

end ToldApart

/-- New parts have new identifiers, the columns are not replaced as a whole, and an order lists no column twice. -/
def Operation.Proper (s : Schema) : Operation → Prop
  | .addTable tableId _ _ => tableId ∉ s.tableIds
  | .updateTable _ patch => patch.columns = none
  | .addColumn _ columnId _ _ => columnId ∉ s.columnIds
  | .reorderColumns _ order => ∀ ids ∈ order, ids.Nodup
  | _ => True

instance (s : Schema) : DecidablePred (Operation.Proper s)
  | .addTable tableId _ _ => inferInstanceAs (Decidable (tableId ∉ s.tableIds))
  | .updateTable _ patch => inferInstanceAs (Decidable (patch.columns = none))
  | .addColumn _ columnId _ _ => inferInstanceAs (Decidable (columnId ∉ s.columnIds))
  | .reorderColumns _ order => inferInstanceAs (Decidable (∀ ids ∈ order, ids.Nodup))
  | .deleteTable _ | .updateColumn .. | .deleteColumn .. | .addRelation .. | .updateRelation ..
  | .deleteRelation _ => .isTrue trivial

namespace Schema

/-- All tables can be told apart, and so can the columns of each. -/
structure WellNamed (s : Schema) : Prop where
  tables : ToldApart Table.id Table.name s.tables
  columns : ∀ t ∈ s.tables, ToldApart Column.id Column.name t.columns

instance : DecidablePred WellNamed := fun s =>
  decidable_of_iff (ToldApart Table.id Table.name s.tables ∧ ∀ t ∈ s.tables, ToldApart Column.id Column.name t.columns)
    ⟨fun h => ⟨h.1, h.2⟩, fun h => ⟨h.tables, h.columns⟩⟩

variable {s t : Schema} {o : Operation} {p : Option Subject}

theorem orDefault_ne_empty {default : String} (h : default ≠ "") (name : String) : orDefault name default ≠ "" := by
  by_cases hname : name = "" <;> simp [orDefault, hname, h]

/-- A part that is changed keeps its name, or gets one that is not empty and is free among the others. -/
theorem newName?_some {asked : Option GivenName} {others : List String} {current name : String}
    (h : newName? asked others current = .ok (some name)) :
    name = current ∨ name ≠ "" ∧ Naming.isFree others name = true := by
  rcases newName?_eq_some_iff.mp h with ⟨-, hname⟩ | ⟨given, base, -, -, hbase, rfl⟩
  · exact Or.inl hname
  · exact Or.inr ⟨Naming.unusedName_ne_empty hbase others, Naming.isFree_unusedName base others⟩

theorem WellNamed.setColumns {id : Id} {u : Table} {cs : List Column} {ts : List Table} {rs : List Relation}
    (h : s.WellNamed) (htable : Exchanges Table.id id u { u with columns := cs } s.tables ts)
    (hcs : ToldApart Column.id Column.name cs) : WellNamed { tables := ts, relations := rs } :=
  ⟨h.tables.exchange htable rfl (Or.inl rfl), htable.forall_mem h.columns hcs⟩

theorem Step.wellNamed (h : s.WellNamed) (hproper : o.Proper s) (hstep : s.Step o p t) : t.WellNamed := by
  cases hstep with
  | addTable hname ht =>
    subst ht
    refine ⟨h.tables.concat hproper ?_ (Naming.isFree_unusedName ..), fun u hu => ?_⟩
    · exact Naming.unusedName_ne_empty (orDefault_ne_empty (by decide) _) _
    · rcases List.mem_append.mp hu with hu | hu
      · exact h.columns u hu
      · rw [List.mem_singleton.mp hu]
        exact ⟨List.nodup_singleton _, List.nodup_singleton _, by simp [idColumn]⟩
  | @updateTable id patch u v name ts hname hpatch htable =>
    refine ⟨h.tables.exchange htable (TablePatch.id_of_apply hpatch) ?_, htable.forall_mem h.columns ?_⟩
    · rw [TablePatch.name_of_apply hpatch]
      exact newName?_some hname
    · rw [TablePatch.columns_of_apply hpatch hproper]
      exact h.columns u htable.mem_left
  | deleteTable id =>
    exact ⟨h.tables.sublist List.filter_sublist, fun u hu => h.columns u (List.mem_of_mem_filter hu)⟩
  | @addColumn tableId columnId _ _ u asked unused c ts hname hunused hpatch htable =>
    have hid : c.id = columnId := ColumnPatch.id_of_apply hpatch
    have hcname : c.name = unused := ColumnPatch.name_of_apply hpatch
    have hnew : c.id ∉ u.columns.map (·.id) := fun hmem =>
      hproper (List.mem_flatMap.mpr ⟨u, htable.mem_left, hid ▸ hmem⟩)
    refine h.setColumns htable ((h.columns u htable.mem_left).concat hnew ?_ ?_)
    · rw [hcname, hunused]
      exact Naming.unusedName_ne_empty (orDefault_ne_empty (by decide) _) _
    · rw [hcname, hunused]
      exact Naming.isFree_unusedName ..
  | @updateColumn _ _ patch u c d name cs ts hname hpatch hcolumn htable =>
    refine h.setColumns htable ((h.columns u htable.mem_left).exchange hcolumn (ColumnPatch.id_of_apply hpatch) ?_)
    rw [ColumnPatch.name_of_apply hpatch]
    exact newName?_some hname
  | @deleteColumn _ _ u ts htable =>
    exact h.setColumns htable ((h.columns u htable.mem_left).sublist List.filter_sublist)
  | @reorderColumns _ order u ts htable =>
    have hcolumns := h.columns u htable.mem_left
    exact h.setColumns htable (hcolumns.perm (reordered_perm_self hcolumns.ids (hproper order rfl)))
  | addRelation hpatch hnew => exact ⟨h.tables, h.columns⟩
  | updateRelation hpatch hrelation => exact ⟨h.tables, h.columns⟩
  | deleteRelation id => exact ⟨h.tables, h.columns⟩

theorem wellNamed_after (h : s.WellNamed) (hproper : o.Proper s) : (s.after o).WellNamed := by
  rcases after_eq_or_step s o with hidle | ⟨p, hstep⟩
  · rwa [hidle]
  · exact hstep.wellNamed h hproper

/-- In a run of proper operations all tables and columns can be told apart at any time. -/
theorem wellNamed_along (h : s.WellNamed) {os : List Operation}
    (hos : EachStep after (fun t o => o.Proper t) s os) : ∀ t ∈ s.along os, t.WellNamed := by
  rw [along_eq_reached]
  exact forall_reached (fun _ _ => wellNamed_after) h hos

/-- Two tables, the second of which has the first number for the name of the first. -/
def orders : Schema where
  tables := [
    { id := .named "t", name := "Order"
      columns := [{ id := .named "a", name := "id" }, { id := .named "b", name := "note" }] },
    { id := .named "u", name := "order_1" }]

/-- The name is asked for again, a table gets its own name in lower case, and a column the name of another one. -/
def namingSteps : List Operation := [
  .addTable (.named "v") (.named "c") (.text " ORDER "),
  .updateTable (.named "t") { name := some (.text "order") },
  .addColumn (.named "t") (.named "d") .missing {},
  .updateColumn (.named "t") (.named "d") { name := some (.text "ID") },
  .reorderColumns (.named "t") (some [.named "d", .named "x", .named "a"])]

theorem wellNamed_along_namingSteps : orders.WellNamed ∧ EachStep after (fun t o => o.Proper t) orders namingSteps ∧
    (∀ t ∈ orders.along namingSteps, t.WellNamed) ∧
    (orders.afterAll namingSteps).tables.map (fun t => (t.name, t.columns.map (·.name))) =
      [("order", ["ID_1", "id", "note"]), ("order_1", []), ("ORDER_2", ["id"])] := by
  have horders : orders.WellNamed := by decide
  have hsteps : EachStep after (fun t o => o.Proper t) orders namingSteps := by decide
  exact ⟨horders, hsteps, wellNamed_along horders hsteps, by decide⟩

end Schema

end SchemaDesk
