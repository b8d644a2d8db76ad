import SchemaDesk.Proofs.Ddl.ColumnEcho
import SchemaDesk.Proofs.Ddl.TableDescription
/-!
The statements that are written for tables, and the tables that are read for them.
-/

namespace SchemaDesk

open Ddl Sql

/-! ### Changing columns by their names -/

namespace Extraction

theorem changeColumn_eq_map {change : Column → Column} {name : String} {cs : List Column}
    (h : (cs.map fun c => Text.lower c.name).Nodup) :
    changeColumn name change cs = cs.map fun c => if Text.sameName c.name name then change c else c := by
  induction cs with
  | nil => rfl
  | cons c cs ih =>
    rw [List.map_cons, List.nodup_cons] at h
    rw [changeColumn, List.map_cons]
    split
    · next hname =>
      have hothers : (cs.map fun b => if Text.sameName b.name name then change b else b) = cs := by
        refine List.map_congr_left (g := id) (fun b hb => if_neg fun hb' => ?_) |>.trans (List.map_id cs)
        have hsame : Text.lower b.name = Text.lower c.name := by
          rw [Text.sameName, beq_iff_eq] at hname hb'
          exact hb'.trans hname.symm
        exact h.1 (hsame ▸ List.mem_map_of_mem hb)
      rw [hothers]
    · rw [ih h.2]

/-- The columns of a key are all that become one. -/
theorem foldl_markKey {names : List String} {cs : List Column} (h : (cs.map fun c => Text.lower c.name).Nodup) :
    names.foldl (fun cs name => changeColumn name markKey cs) cs =
      cs.map fun c => if names.any (Text.sameName c.name) then markKey c else c := by
  induction names generalizing cs with
  | nil => simp
  | cons name names ih =>
    have hnames (c : Column) : (if Text.sameName c.name name then markKey c else c).name = c.name := by
      split <;> rfl
    rw [List.foldl_cons, changeColumn_eq_map h, ih (by simpa [List.map_map, Function.comp_def, hnames] using h), List.map_map]
    refine List.map_congr_left fun c _ => ?_
    simp only [Function.comp_apply, hnames, List.any_cons]
    by_cases hname : Text.sameName c.name name = true
    · have htwice : markKey (markKey c) = markKey c := rfl
      simp [hname, htwice]
    · simp [hname]

end Extraction

namespace Table

variable {d : Dialect} {t : Table}

/-- The names in the line for the key; there is none if there are no names. -/
def keyNames (t : Table) (d : Dialect) : List String :=
  (t.columns.filter (·.isKeyListed d t.hasCompositeKey)).map (·.name)

theorem keyLines_eq (t : Table) (d : Dialect) :
    t.keyLines d = if t.keyNames d = [] then [] else [keyLine (t.keyNames d)] := by
  have hfilter (k : Bool) : t.columns.filter (·.isKeyListed d k) =
      t.keyColumns.filter fun c => k || (d == .postgresql && c.type.isSerial) := by
    rw [keyColumns, List.filter_filter]
    exact List.filter_congr fun c _ => Bool.and_comm ..
  rw [keyNames, hfilter]
  unfold keyLines
  cases hkey : t.hasCompositeKey with
  | true =>
    have hne : t.keyColumns ≠ [] := by
      rw [hasCompositeKey, decide_eq_true_iff] at hkey
      exact List.ne_nil_of_length_pos (by omega)
    simp [hne]
  | false =>
    rw [hasCompositeKey, decide_eq_false_iff_not] at hkey
    cases d with
    | mysql | sqlite => simp
    | postgresql =>
      obtain hnil | ⟨c, hc⟩ : t.keyColumns = [] ∨ ∃ c, t.keyColumns = [c] := by
        rw [← List.length_eq_zero_iff, ← List.length_eq_one_iff]
        omega
      · simp [hnil]
      · cases hserial : c.type.isSerial <;> simp [hc, hserial, List.find?]

/-- The line for the key, if there is one. -/
def writtenKey (t : Table) (d : Dialect) : List Line :=
  match t.keyNames d with
  | [] => []
  | name :: names => [.key name names]

noncomputable def writtenLines (t : Table) (d : Dialect) : List Line :=
  t.columns.map (·.writtenLine d t.hasCompositeKey) ++ t.writtenKey d

/-- The statement of a table that has columns. -/
noncomputable def creation (t : Table) (d : Dialect) : CreateTable :=
  { name := t.name
    first := (t.writtenLines d).headD (.key "" [])
    more := (t.writtenLines d).tail }

theorem lines_creation (h : t.columns ≠ []) : (t.creation d).lines = t.writtenLines d := by
  obtain ⟨c, cs, hcs⟩ := List.exists_cons_of_ne_nil h
  simp [creation, CreateTable.lines, writtenLines, hcs]

/-! ### The text of the statement -/

theorem toList_keyLine (name : String) (names : List String) :
    (keyLine (name :: names)).toList = indent.toList ++ Lexeme.allWritten (Line.key name names).lexemes := by
  have hnames (names : List String) : (names.flatMap fun s => ", ".toList ++ s.toList) =
      Lexeme.allWritten (names.flatMap fun s => [.mark ',', .blank ' ', .verbatim .word s]) := by
    rw [Lexeme.allWritten, List.flatMap_assoc]
    exact List.flatMap_congr fun s _ => by simp [Lexeme.mark, Lexeme.verbatim, Lexeme.written]
  rw [keyLine, String.toList_append, String.toList_append, String.toList_append, Column.toList_intercalate_cons, hnames,
    Line.lexemes, nameLexemes, List.cons_append, Lexeme.allWritten_cons, Lexeme.allWritten_cons, Lexeme.allWritten_cons,
    Lexeme.allWritten_cons, Lexeme.allWritten_append]
  simp [Lexeme.mark, Lexeme.verbatim, Lexeme.written]

theorem map_toList_bodyLines (h : ∀ c ∈ t.columns, c.HasSimpleDefault) : (t.bodyLines d).map String.toList =
    (t.writtenLines d).map fun x => indent.toList ++ Lexeme.allWritten x.lexemes := by
  rw [bodyLines, writtenLines, List.map_append, List.map_append, List.map_map, List.map_map]
  congr 1
  · exact List.map_congr_left fun c hc => Column.toList_line (h c hc)
  · rw [keyLines_eq, writtenKey]
    cases t.keyNames d with
    | nil => rfl
    | cons name names => exact congrArg ([·]) (toList_keyLine name names)

theorem toList_script (hne : t.columns ≠ []) (h : ∀ c ∈ t.columns, c.HasSimpleDefault) :
    (t.script d).toList = Lexeme.allWritten (t.creation d).lexemes := by
  obtain ⟨x, xs, hlines⟩ : ∃ x xs, t.writtenLines d = x :: xs := by
    obtain ⟨c, cs, hcs⟩ := List.exists_cons_of_ne_nil hne
    exact ⟨_, _, by rw [writtenLines, hcs]; rfl⟩
  have hbody := map_toList_bodyLines (d := d) h
  rw [hlines] at hbody
  obtain ⟨s, ss, hs, hfirst, hmore⟩ := List.map_eq_cons_iff.mp hbody
  have hrest : (ss.flatMap fun s => ",\n".toList ++ s.toList) =
      Lexeme.allWritten (xs.flatMap fun x => .mark ',' :: (margin ++ x.lexemes)) := by
    have hmap : (ss.flatMap fun s => ",\n".toList ++ s.toList) = (ss.map String.toList).flatMap (",\n".toList ++ ·) := by
      rw [List.flatMap_map]
    rw [hmap, hmore, List.flatMap_map, Lexeme.allWritten, List.flatMap_assoc]
    exact List.flatMap_congr fun x _ => by simp [Lexeme.mark, margin, Lexeme.written, indent, Lexeme.allWritten]
  have hcreation : t.creation d = ⟨t.name, x, xs⟩ := by rw [creation, hlines]; rfl
  have hmargin : Lexeme.allWritten margin = '\n' :: indent.toList := by decide
  have hend : Lexeme.allWritten [.blank '\n', .mark ')'] = ['\n', ')'] := rfl
  unfold script
  rw [hs, String.toList_append, String.toList_append, String.toList_append, String.toList_append, Column.toList_intercalate_cons,
    hfirst, hrest, hcreation, CreateTable.lexemes, CreateTable.lineLexemes]
  simp only [Lexeme.allWritten_append, hmargin, hend]
  simp [Lexeme.mark, Lexeme.verbatim, Lexeme.written]

/-! ### Reading the statement -/

theorem isValid_creation (hne : t.columns ≠ []) (hname : IsPlain d t.name) (hnames : ∀ c ∈ t.columns, IsPlain d c.name) :
    (t.creation d).IsValid d := by
  refine ⟨hname, ?_⟩
  show ∀ x ∈ (t.creation d).lines, x.IsValid d
  rw [lines_creation hne, writtenLines, List.forall_mem_append, List.forall_mem_map]
  refine ⟨fun c hc => Column.isValid_writtenLine (hnames c hc), ?_⟩
  have hkey : ∀ s ∈ t.keyNames d, IsPlain d s := by
    rw [keyNames, List.forall_mem_map]
    exact fun c hc => hnames c (List.mem_filter.mp hc).1
  rw [writtenKey]
  cases hnames : t.keyNames d with
  | nil => exact nofun
  | cons name names =>
    rw [hnames] at hkey
    exact List.forall_mem_singleton.mpr hkey

theorem isRead_writtenKey : ∀ x ∈ t.writtenKey d, x.IsRead d := by
  rw [writtenKey]
  cases t.keyNames d with
  | nil => exact nofun
  | cons name names => simp [Line.IsRead]

theorem isRead_creation (hne : t.columns ≠ []) (h : ∀ c ∈ t.columns, c.IsReadable d) : (t.creation d).IsRead d := by
  show ∀ x ∈ (t.creation d).lines, x.IsRead d
  rw [lines_creation hne, writtenLines, List.forall_mem_append, List.forall_mem_map]
  exact ⟨fun c hc => Column.isRead_writtenLine (h c hc), isRead_writtenKey⟩

theorem isStuck_creation (hne : t.columns ≠ []) (h : ∃ c ∈ t.columns, ¬ c.IsReadable d) : (t.creation d).IsStuck d := by
  show (∀ x ∈ (t.creation d).lines, x.IsRead d ∨ x.IsStuck d) ∧ ∃ x ∈ (t.creation d).lines, x.IsStuck d
  rw [lines_creation hne, writtenLines]
  constructor
  · rw [List.forall_mem_append, List.forall_mem_map]
    refine ⟨fun c hc => ?_, fun x hx => Or.inl (isRead_writtenKey x hx)⟩
    by_cases hreadable : c.IsReadable d
    · exact Or.inl (Column.isRead_writtenLine hreadable)
    · exact Or.inr (Column.isStuck_writtenLine hreadable)
  · obtain ⟨c, hc, hnot⟩ := h
    exact ⟨_, List.mem_append_left _ (List.mem_map_of_mem hc), Column.isStuck_writtenLine hnot⟩

/-! ### The table that is read -/

/-- The table that is read for a table. -/
def echo (t : Table) (d : Dialect) : Table :=
  { id := .fresh 0
    name := t.name
    columns := t.columns.map (·.echo d t.hasCompositeKey) }

theorem definitions_creation (hne : t.columns ≠ []) : (t.creation d).definitions =
    t.columns.map fun c => Line.definition c.name (c.typeWords d) (c.writtenClauses d t.hasCompositeKey) := by
  rw [CreateTable.definitions, lines_creation hne, writtenLines, List.filterMap_append, List.filterMap_map]
  have hkey : (t.writtenKey d).filterMap Line.definition? = [] := by
    rw [writtenKey]
    cases t.keyNames d <;> rfl
  rw [hkey, List.append_nil, ← List.filterMap_eq_map]
  rfl

theorem constraints_creation (hne : t.columns ≠ []) : (t.creation d).constraints =
    match t.keyNames d with
    | [] => []
    | names => [{ kind := .primaryKey, columns := names }] := by
  have hcolumns : (t.columns.map (·.writtenLine d t.hasCompositeKey)).filterMap Line.constraint? = [] := by
    rw [List.filterMap_map, List.filterMap_eq_nil_iff]
    exact fun c _ => rfl
  rw [CreateTable.constraints, lines_creation hne, writtenLines, List.filterMap_append, hcolumns, writtenKey]
  cases t.keyNames d <;> rfl

/-- A table is read by the columns that are read for its columns. -/
theorem table_creation (hne : t.columns ≠ []) (h : ∀ c ∈ t.columns, c.HasSimpleDefault)
    (hnames : (t.columns.map fun c => Text.lower c.name).Nodup) : (t.creation d).table = t.echo d := by
  have hkey (cs : List Column) : Extraction.applyConstraints cs (t.creation d).constraints =
      (t.keyNames d).foldl (fun cs name => Extraction.changeColumn name Extraction.markKey cs) cs := by
    rw [constraints_creation hne]
    cases t.keyNames d <;> rfl
  have hlisted : ∀ c ∈ t.columns, (t.keyNames d).any (Text.sameName c.name) = c.isKeyListed d t.hasCompositeKey := by
    intro c hc
    rw [Bool.eq_iff_iff, keyNames, List.any_map, List.any_eq_true]
    constructor
    · rintro ⟨b, hb, hname⟩
      obtain ⟨hb, hlisted⟩ := List.mem_filter.mp hb
      obtain rfl : c = b := List.inj_on_of_nodup_map hnames hc hb (beq_iff_eq.mp hname)
      exact hlisted
    · intro hlisted
      exact ⟨c, List.mem_filter.mpr ⟨hc, hlisted⟩, beq_self_eq_true _⟩
  rw [CreateTable.table, hkey, definitions_creation hne, List.map_map,
    Extraction.foldl_markKey (by rw [List.map_map]; exact hnames), List.map_map, echo]
  refine congrArg (Table.mk _ _ _ · _ _) (List.map_congr_left fun c hc => ?_)
  have hname : (Extraction.column 0 (Line.definition c.name (c.typeWords d)
      (c.writtenClauses d t.hasCompositeKey))).name = c.name := rfl
  rw [← Column.column_definition (h c hc), Function.comp_apply, Function.comp_apply, hname, hlisted c hc]
  split <;> rfl

end Table

end SchemaDesk
