import SchemaDesk.Proofs.Extraction.Source
import SchemaDesk.Proofs.Schema.Reorder
import SchemaDesk.Proofs.Schema.Run
import SchemaDesk.Proofs.Schema.Step
/-!
Key columns in runs of the editor. A key column is meant to be never null and always unique. The editor takes the
marks of a column as they are given, so a run stays among such schemas exactly as long as no column is added or
changed that gets only a part of the marks.
-/

namespace SchemaDesk

open Extraction (KeyMarked)

/-- The patch makes a key column out of a column that is then nullable or not unique. -/
def ColumnPatch.MarksInPart (p : ColumnPatch) (c : Column) : Prop :=
  p.primaryKey.getD c.primaryKey = true ∧ ¬ (p.nullable.getD c.nullable = false ∧ p.unique.getD c.unique = true)

/-- The patch has no unknown field, and the name that it asks for, if any, is a text that is not blank. -/
structure ColumnPatch.GoesThrough (p : ColumnPatch) : Prop where
  known : p.unknownField = false
  named : ∀ given, p.name = some given → ∃ asked, given.read = .ok asked ∧ asked ≠ ""

/-- A column is added or changed that gets only a part of the marks of a key column. -/
def Operation.MarksInPart (s : Schema) : Operation → Prop
  | .addColumn tableId columnId name patch =>
    (s.table? tableId).isSome ∧ name ≠ .noText ∧ patch.unknownField = false ∧
      patch.MarksInPart { id := columnId, name := Schema.defaultColumnName }
  | .updateColumn tableId columnId patch =>
    ∃ t c, s.table? tableId = some t ∧ t.column? columnId = some c ∧ patch.GoesThrough ∧ patch.MarksInPart c
  | _ => False

namespace Schema

/-- All key columns are marked in full. -/
def KeysMarked (s : Schema) : Prop := ∀ t ∈ s.tables, ∀ c ∈ t.columns, KeyMarked c

instance (c : Column) : Decidable (KeyMarked c) := by
  unfold KeyMarked
  infer_instance

instance : DecidablePred KeysMarked := fun s =>
  inferInstanceAs (Decidable (∀ t ∈ s.tables, ∀ c ∈ t.columns, KeyMarked c))

end Schema

theorem ColumnPatch.keyMarked_iff {p : ColumnPatch} {name : String} {c d : Column} (h : p.apply name c = .ok d) :
    KeyMarked d ↔ ¬ p.MarksInPart c := by
  obtain ⟨-, rfl⟩ := apply_eq_ok_iff.mp h
  rw [KeyMarked, MarksInPart, not_and, not_not]

namespace Schema

variable {s t : Schema} {o : Operation} {p : Option Subject}

/-- A step keeps the keys marked exactly if the column that it gives back is marked like that, if it gives back one. -/
theorem Step.keysMarked_iff (h : s.KeysMarked) (hstep : s.Step o p t) (hkeeps : o.KeepsColumns) :
    t.KeysMarked ↔ ∀ c, p = some (.column c) → KeyMarked c := by
  cases hstep with
  | addTable hname ht =>
    refine iff_of_true (fun u hu => ?_) (by simp)
    rcases List.mem_append.mp hu with hu | hu
    · exact h u hu
    · obtain rfl := List.mem_singleton.mp hu
      rw [ht]
      simp [KeyMarked, idColumn]
  | @updateTable id patch t u name ts hname hpatch htable =>
    refine iff_of_true (htable.forall_mem h ?_) (by simp)
    rw [TablePatch.columns_of_apply hpatch hkeeps]
    exact h t htable.mem_left
  | deleteTable id => exact iff_of_true (fun u hu => h u (List.mem_of_mem_filter hu)) (by simp)
  | @addColumn _ _ _ _ t asked unused c ts hname hunused hpatch htable =>
    constructor
    · rintro hmarked b ⟨⟩
      exact hmarked _ htable.mem_right c (by simp)
    · intro hc
      refine htable.forall_mem h fun d hd => ?_
      rcases List.mem_append.mp hd with hd | hd
      · exact h t htable.mem_left d hd
      · exact hc d (by rw [List.mem_singleton.mp hd])
  | @updateColumn _ _ _ t c d name cs ts hname hpatch hcolumn htable =>
    constructor
    · rintro hmarked b ⟨⟩
      exact hmarked _ htable.mem_right d hcolumn.mem_right
    · exact fun hd => htable.forall_mem h (hcolumn.forall_mem (h t htable.mem_left) (hd d rfl))
  | @deleteColumn _ _ t ts htable =>
    exact iff_of_true (htable.forall_mem h fun c hc => h t htable.mem_left c (List.mem_of_mem_filter hc)) (by simp)
  | @reorderColumns _ _ t ts htable =>
    exact iff_of_true (htable.forall_mem h fun c hc => h t htable.mem_left c (mem_of_mem_reordered hc)) (by simp)
  | addRelation hpatch hnew => exact iff_of_true h (by simp)
  | updateRelation hpatch hrelation => exact iff_of_true h (by simp)
  | deleteRelation id => exact iff_of_true h (by simp)

/-! ### One operation -/

theorem exists_newName?_iff {asked : Option GivenName} {others : List String} {current : String} :
    (∃ name, newName? asked others current = .ok (some name)) ↔
      ∀ given, asked = some given → ∃ name, given.read = .ok name ∧ name ≠ "" := by
  simp only [newName?_eq_some_iff]
  cases asked <;> simp

/-- The column that a step gives back is marked in full unless the operation marks it in part. -/
theorem Step.keyMarked_iff {c : Column} (h : s.Step o (some (.column c)) t) : KeyMarked c ↔ ¬ o.MarksInPart s := by
  cases h with
  | addColumn hname hunused hpatch htable =>
    rw [ColumnPatch.keyMarked_iff hpatch]
    refine not_congr ⟨fun hpart => ⟨?_, ?_, (ColumnPatch.apply_eq_ok_iff.mp hpatch).1, hpart⟩, fun hpart => hpart.2.2.2⟩
    · rw [table?, htable.find?_eq]
      rfl
    · rintro rfl
      cases hname
  | @updateColumn _ _ _ t c d name cs ts hname hpatch hcolumn htable =>
    rw [ColumnPatch.keyMarked_iff hpatch]
    refine not_congr ⟨fun hpart => ⟨t, c, htable.find?_eq, hcolumn.find?_eq, ⟨(ColumnPatch.apply_eq_ok_iff.mp hpatch).1, ?_⟩, hpart⟩, ?_⟩
    · exact exists_newName?_iff.mp ⟨name, hname⟩
    · rintro ⟨t', c', ht, hc, -, hpart⟩
      obtain rfl := Option.some.inj (htable.find?_eq.symm.trans ht)
      obtain rfl := Option.some.inj (hcolumn.find?_eq.symm.trans hc)
      exact hpart

/-- Such an operation has an effect. -/
theorem exists_step_of_marksInPart (h : o.MarksInPart s) : ∃ c t, s.after o = t ∧ s.Step o (some (.column c)) t := by
  cases o with
  | addColumn tableId columnId name patch =>
    obtain ⟨htable, hname, hknown, -⟩ := h
    obtain ⟨t, ht⟩ := Option.isSome_iff_exists.mp htable
    obtain ⟨asked, hasked⟩ : ∃ asked, name.read = .ok asked := by
      cases name with
      | noText => exact absurd rfl hname
      | _ => exact ⟨_, rfl⟩
    obtain ⟨e, he⟩ : ∃ e, s.addColumn tableId columnId name patch = .ok (some e) := by
      rw [addColumn, ht]
      simp [hasked, ColumnPatch.apply, hknown, bind, Except.bind, pure, Except.pure]
    exact ⟨e.subject, e.schema, by rw [after, attempt, he]; rfl, step_addColumn he⟩
  | updateColumn tableId columnId patch =>
    obtain ⟨t, c, ht, hc, ⟨hknown, hnamed⟩, -⟩ := h
    obtain ⟨name, hname⟩ := (@exists_newName?_iff patch.name (t.namesBut columnId) c.name).mpr hnamed
    obtain ⟨e, he⟩ : ∃ e, s.updateColumn tableId columnId patch = .ok (some e) := by
      have hname : newName? patch.name ((t.columns.filter fun b => b.id != columnId).map (·.name))
          (((some c).map (·.name)).getD "") = .ok (some name) := hname
      simp only [updateColumn, ht, hc, hname]
      simp [ColumnPatch.apply, hknown, bind, Except.bind, pure, Except.pure]
    exact ⟨e.subject, e.schema, by rw [after, attempt, he]; rfl, step_updateColumn he⟩
  | _ => cases h

/-- An operation keeps the keys marked unless it marks one in part. -/
theorem keysMarked_after_iff (h : s.KeysMarked) (hkeeps : o.KeepsColumns) :
    (s.after o).KeysMarked ↔ ¬ o.MarksInPart s := by
  constructor
  · intro hafter hpart
    obtain ⟨c, t, ht, hstep⟩ := exists_step_of_marksInPart hpart
    have hmarked := (hstep.keysMarked_iff h hkeeps).mp (ht ▸ hafter) c rfl
    exact hstep.keyMarked_iff.mp hmarked hpart
  · intro hpart
    rcases after_eq_or_step s o with hidle | ⟨p, hstep⟩
    · rwa [hidle]
    · refine (hstep.keysMarked_iff h hkeeps).mpr fun c hp => ?_
      subst hp
      exact hstep.keyMarked_iff.mpr hpart

/-! ### Runs -/

/-- The keys are marked along a whole run exactly if none of its operations marks one in part. -/
theorem keysMarked_along_iff (h : s.KeysMarked) {os : List Operation} (hos : ∀ o ∈ os, o.KeepsColumns) :
    (∀ t ∈ s.along os, t.KeysMarked) ↔ EachStep after (fun t o => ¬ o.MarksInPart t) s os := by
  rw [along_eq_reached]
  exact forall_reached_iff (fun _ _ => keysMarked_after_iff) h (eachStep_of_forall hos)

/-- A table without a key column. -/
def keyless : Schema where
  tables := [{ id := .named "t", name := "t", columns := [{ id := .named "a", name := "a" }] }]

/-- A column becomes a key column once it has the other marks, and another key column is added. -/
def keySteps : List Operation := [
  .updateColumn (.named "t") (.named "a") { nullable := some false, unique := some true },
  .updateColumn (.named "t") (.named "a") { primaryKey := some true },
  .addColumn (.named "t") (.named "b") .missing
    { primaryKey := some true, nullable := some false, unique := some true }]

theorem keysMarked_along_keySteps : keyless.KeysMarked ∧ (∀ o ∈ keySteps, o.KeepsColumns) ∧
    EachStep after (fun t o => ¬ o.MarksInPart t) keyless keySteps :=
  ⟨by decide, by decide, (keysMarked_along_iff (by decide) (by decide)).mp (by decide)⟩

theorem key_marked_in_part :
    let o : Operation := .updateColumn (.named "t") (.named "a") { primaryKey := some true }
    keyless.KeysMarked ∧ o.KeepsColumns ∧ ∃ t ∈ keyless.along [o], ¬ t.KeysMarked := by
  decide

end Schema

end SchemaDesk
