import Mathlib.Data.List.Forall2
import Mathlib.Tactic.Common
import SchemaDesk.Extraction
import SchemaDesk.Proofs.Schema.Identifier

/-!
The table that is extracted from one statement: its names are there, its identifiers are the next ones,
and its key columns are marked in full, whatever the shape of the statement.
-/

namespace SchemaDesk

/-! ### Names -/

theorem Text.natText_ne_empty (n : Nat) : Text.natText n ≠ "" := by
  intro h
  have hdigits := congrArg String.toList h
  rw [Text.natText, String.toList_ofList] at hdigits
  exact Nat.toDigits_ne_nil hdigits

theorem Text.intText_ne_empty (n : Int) : Text.intText n ≠ "" := by
  unfold Text.intText
  split
  · intro h
    have hminus := congrArg String.toList h
    simp at hminus
  · exact Text.natText_ne_empty _

theorem Binary64.positional_ne_nil (ds : List Char) (point : Int) : positional ds point ≠ [] := by
  unfold positional
  split
  · exact nofun
  · dsimp only
    split <;> simp

theorem Binary64.text_ne_empty (x : Binary64) : x.text ≠ "" := by
  cases x with
  | infinite negative => cases negative <;> decide
  | finite negative m e =>
    intro h
    have hchars := congrArg String.toList h
    cases negative with
    | true => simp [text] at hchars
    | false =>
      simp only [text, Bool.false_eq_true, if_false, String.toList_ofList] at hchars
      split at hchars
      · cases hchars
      · split at hchars
        · exact positional_ne_nil _ _ hchars
        · simp [scientific] at hchars

mutual

theorem Value.ne_empty_of_nameText? {s : String} : ∀ v : Value, v.nameText? = some s → s ≠ ""
  | .text t => by
    intro h
    simp only [nameText?] at h
    split at h
    · cases h
    · next hne =>
      obtain rfl := Option.some.inj h
      simpa using hne
  | .int n => by
    intro h
    obtain rfl := Option.some.inj h
    exact Text.intText_ne_empty n
  | .real x => by
    intro h
    obtain rfl := Option.some.inj h
    exact Binary64.text_ne_empty x
  | .record fields => by
    intro h
    have hfield (key : String) : nameField? key fields = some (some s) → s ≠ "" :=
      ne_empty_of_nameField? key fields
    simp only [nameText?] at h
    split at h
    · next t ht => exact hfield _ (h ▸ ht)
    split at h
    · next t ht => exact hfield _ (h ▸ ht)
    split at h
    · next t ht => exact hfield _ (h ▸ ht)
    split at h
    · next t ht => exact hfield _ (h ▸ ht)
    · cases hname : nameField? "name" fields with
      | none => simp [hname] at h
      | some t => exact hfield "name" (by simpa [hname] using h)
  | .null => nofun
  | .bool _ => nofun
  | .list _ => nofun

theorem Value.ne_empty_of_nameField? {s : String} (key : String) :
    ∀ fields : List (String × Value), nameField? key fields = some (some s) → s ≠ ""
  | [] => nofun
  | (name, v) :: fields => by
    intro h
    simp only [nameField?] at h
    split at h
    · split at h
      · cases h
      · exact ne_empty_of_nameText? v (Option.some.inj h)
    · exact ne_empty_of_nameField? key fields h

end

/-- The numbers that belong to the type of the column. -/
def Column.numbers (c : Column) : TypeNumbers := ⟨c.length, c.precision, c.scale, c.dimension⟩

namespace Extraction

/-! ### Marks of columns -/

/-- A key column is never null and always unique. -/
def KeyMarked (c : Column) : Prop := c.primaryKey = true → c.nullable = false ∧ c.unique = true

/-- The column may have got more marks, but it is the same column. -/
structure Marks (c c' : Column) : Prop where
  id_eq : c'.id = c.id
  name_eq : c'.name = c.name
  numbers_eq : c'.numbers = c.numbers
  keyMarked : KeyMarked c → KeyMarked c'

theorem Marks.refl (c : Column) : Marks c c := ⟨rfl, rfl, rfl, id⟩

theorem Marks.trans {a b c : Column} (hab : Marks a b) (hbc : Marks b c) : Marks a c :=
  ⟨hbc.id_eq.trans hab.id_eq, hbc.name_eq.trans hab.name_eq, hbc.numbers_eq.trans hab.numbers_eq,
    fun h => hbc.keyMarked (hab.keyMarked h)⟩

theorem marks_markKey (c : Column) : Marks c (markKey c) := ⟨rfl, rfl, rfl, fun _ _ => ⟨rfl, rfl⟩⟩

theorem marks_markUnique (c : Column) : Marks c (markUnique c) :=
  ⟨rfl, rfl, rfl, fun h hkey => ⟨(h hkey).1, rfl⟩⟩

theorem changeColumn_marks {change : Column → Column} (hchange : ∀ c, Marks c (change c)) (name : String)
    (cs : List Column) : List.Forall₂ Marks cs (changeColumn name change cs) := by
  induction cs with
  | nil => exact .nil
  | cons c cs ih =>
    rw [changeColumn]
    split
    · exact .cons (hchange c) (List.forall₂_same.mpr fun c _ => .refl c)
    · exact .cons (.refl c) ih

theorem forall₂_marks_trans {as bs cs : List Column} (h : List.Forall₂ Marks as bs)
    (h' : List.Forall₂ Marks bs cs) : List.Forall₂ Marks as cs := by
  induction h generalizing cs with
  | nil => exact h'
  | cons hab _ ih =>
    cases h' with
    | cons hbc h' => exact .cons (hab.trans hbc) (ih h')

theorem foldl_marks {α : Type} {step : List Column → α → List Column}
    (hstep : ∀ cs a, List.Forall₂ Marks cs (step cs a)) (as : List α) :
    ∀ cs, List.Forall₂ Marks cs (as.foldl step cs) := by
  induction as with
  | nil => exact fun cs => List.forall₂_same.mpr fun c _ => .refl c
  | cons a as ih => exact fun cs => forall₂_marks_trans (hstep cs a) (ih _)

/-- The constraints of a table add marks to its columns and leave all else alone. -/
theorem applyConstraints_marks (cs : List Column) (ks : List TableConstraint) :
    List.Forall₂ Marks cs (applyConstraints cs ks) := by
  refine foldl_marks (fun cs k => ?_) ks cs
  unfold applyConstraint
  split
  · exact foldl_marks (fun cs name => changeColumn_marks marks_markKey name cs) _ cs
  · exact foldl_marks (fun cs name => changeColumn_marks marks_markUnique name cs) _ cs
  · exact List.forall₂_same.mpr fun c _ => .refl c

/-! ### Columns and their identifiers -/

theorem keyMarked_column (serial : Nat) (d : ColumnDefinition) : KeyMarked (column serial d) := by
  intro hkey
  have hmark : d.marks.primaryKey = true := hkey
  simp [column, hmark]

theorem ids_columns (ds : List ColumnDefinition) :
    ∀ serial, (columns serial ds).map (·.id) = (List.range' serial ds.length).map Id.fresh := by
  induction ds with
  | nil => exact fun _ => rfl
  | cons d ds ih =>
    intro serial
    rw [columns, List.map_cons, ih, List.length_cons, List.range'_succ, List.map_cons]
    rfl

theorem exists_of_mem_columns {c : Column} (ds : List ColumnDefinition) :
    ∀ serial, c ∈ columns serial ds → ∃ n, ∃ d ∈ ds, c = column n d := by
  induction ds with
  | nil => exact fun _ => nofun
  | cons d ds ih =>
    intro serial hc
    rcases List.mem_cons.mp hc with rfl | hc
    · exact ⟨serial, d, by simp, rfl⟩
    · obtain ⟨n, e, he, rfl⟩ := ih (serial + 1) hc
      exact ⟨n, e, by simp [he], rfl⟩

theorem name_ne_empty_of_ofValue? {v : Value} {d : ColumnDefinition}
    (h : ColumnDefinition.ofValue? v = .ok (some d)) : d.name ≠ "" := by
  unfold ColumnDefinition.ofValue? at h
  split at h
  · cases h
  split at h
  · cases h
  · next name hname =>
    dsimp only at h
    split at h
    · cases h
    · cases hnumbers : ColumnDefinition.writtenNumbers v with
      | error e => rw [hnumbers] at h; cases h
      | ok ns =>
        rw [hnumbers] at h
        obtain rfl := Option.some.inj (Except.ok.inj h)
        exact Value.ne_empty_of_nameText? _ hname

/-- Each definition is that of a description. -/
theorem exists_of_mem_definitions {ds : List ColumnDefinition} {d : ColumnDefinition} (vs : List Value) :
    definitions vs = .ok ds → d ∈ ds → ∃ v ∈ vs, ColumnDefinition.ofValue? v = .ok (some d) := by
  induction vs generalizing ds with
  | nil =>
    intro h hd
    obtain rfl := Except.ok.inj h
    cases hd
  | cons v vs ih =>
    intro h hd
    rw [definitions] at h
    split at h
    · cases h
    · next found hfound =>
      cases hrest : definitions vs with
      | error e => rw [hrest] at h; cases h
      | ok es =>
        rw [hrest] at h
        obtain rfl := Except.ok.inj h
        rcases List.mem_append.mp hd with hd | hd
        · obtain rfl : found = some d := by simpa using hd
          exact ⟨v, by simp, hfound⟩
        · obtain ⟨w, hw, hd⟩ := ih hrest hd
          exact ⟨w, by simp [hw], hd⟩

theorem name_ne_empty_of_mem_definitions {ds : List ColumnDefinition} {d : ColumnDefinition} (vs : List Value)
    (h : definitions vs = .ok ds) (hd : d ∈ ds) : d.name ≠ "" := by
  obtain ⟨v, -, hv⟩ := exists_of_mem_definitions vs h hd
  exact name_ne_empty_of_ofValue? hv

/-! ### Sources -/

theorem exists_of_mem_right {α β : Type} {R : α → β → Prop} {xs : List α} {ys : List β} {y : β}
    (h : List.Forall₂ R xs ys) (hy : y ∈ ys) : ∃ x ∈ xs, R x y := by
  induction h with
  | nil => cases hy
  | @cons x y' xs ys hxy _ ih =>
    rcases List.mem_cons.mp hy with rfl | hy
    · exact ⟨x, by simp, hxy⟩
    · obtain ⟨x', hx', hxy'⟩ := ih hy
      exact ⟨x', by simp [hx'], hxy'⟩

/-- The identifiers of a source in the order in which they are made. -/
def sourceIds (s : TableSource) : List Id := s.table.columns.map (·.id) ++ [s.table.id]

/-- What a statement with a table gives, from a serial on. -/
structure MadeFrom (serial : Nat) (name : String) (s : TableSource) (next : Nat) : Prop where
  name_eq : s.table.name = name
  columns_ne_nil : s.table.columns ≠ []
  column_names : ∀ c ∈ s.table.columns, c.name ≠ ""
  keyMarked : ∀ c ∈ s.table.columns, KeyMarked c
  ids_eq : ∃ n, next = serial + n ∧ sourceIds s = (List.range' serial n).map Id.fresh

theorem exists_of_source? {serial next : Nat} {name : String} {v : Value} {s : TableSource}
    (h : source? serial name v = .ok (some (s, next))) :
    ∃ ds, definitions (columnDescriptions v) = .ok ds ∧ ds ≠ [] ∧ next = serial + (ds.length + 1) ∧
      s.table.id = .fresh (serial + ds.length) ∧ s.table.name = name ∧
      s.table.columns = applyConstraints (columns serial ds) (TableConstraint.ofStatement v) := by
  cases hdefinitions : definitions (columnDescriptions v) with
  | error e => rw [source?, hdefinitions] at h; cases h
  | ok ds =>
    simp only [source?, hdefinitions, Except.map, Except.ok.injEq] at h
    split at h
    · cases h
    · next hne =>
      obtain ⟨rfl, rfl⟩ := Prod.mk.inj (Option.some.inj h)
      exact ⟨ds, rfl, by simpa using hne, rfl, rfl, rfl, rfl⟩

theorem madeFrom_of_source? {serial next : Nat} {name : String} {v : Value} {s : TableSource}
    (h : source? serial name v = .ok (some (s, next))) : MadeFrom serial name s next := by
  obtain ⟨ds, hdefinitions, hne, rfl, hid, hname, hcolumns⟩ := exists_of_source? h
  have hmarks := applyConstraints_marks (columns serial ds) (TableConstraint.ofStatement v)
  rw [← hcolumns] at hmarks
  have hmarked : ∀ c' ∈ s.table.columns, ∃ c ∈ columns serial ds, Marks c c' :=
    fun c' hc' => exists_of_mem_right hmarks hc'
  have hids : s.table.columns.map (·.id) = (columns serial ds).map (·.id) := by
    rw [eq_comm, ← List.forall₂_eq_eq_eq, List.forall₂_map_left_iff, List.forall₂_map_right_iff]
    exact hmarks.imp fun _ _ h => h.id_eq.symm
  constructor
  case name_eq => exact hname
  case columns_ne_nil =>
    intro hnil
    rw [hnil, List.forall₂_nil_right_iff] at hmarks
    cases ds with
    | nil => exact hne rfl
    | cons d ds => cases hmarks
  case column_names =>
    intro c' hc'
    obtain ⟨c, hc, hmark⟩ := hmarked c' hc'
    obtain ⟨n, d, hd, rfl⟩ := exists_of_mem_columns ds serial hc
    rw [hmark.name_eq]
    exact name_ne_empty_of_mem_definitions _ hdefinitions hd
  case keyMarked =>
    intro c' hc'
    obtain ⟨c, hc, hmark⟩ := hmarked c' hc'
    obtain ⟨n, d, -, rfl⟩ := exists_of_mem_columns ds serial hc
    exact hmark.keyMarked (keyMarked_column n d)
  case ids_eq =>
    refine ⟨ds.length + 1, rfl, ?_⟩
    rw [sourceIds, hids, ids_columns, hid, List.range'_1_concat, List.map_append]
    rfl

end Extraction

end SchemaDesk
