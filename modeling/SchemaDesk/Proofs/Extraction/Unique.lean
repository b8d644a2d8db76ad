import SchemaDesk.Proofs.Definition.Marks

/-!
Which columns of an extracted table have unique values. A UNIQUE over several columns is read as if it
stood with each of them, so that the table may refuse rows that the statement allows.
-/

namespace SchemaDesk

/-! ### What a statement says -/

namespace ColumnDefinition

/-- The description of a column says that its values are unique, not only that it is a key. -/
def SaysUnique (item : Value) : Prop :=
  (uniqueMarks item).unique = true ∨ ∃ entry ∈ constraints item, Text.hasWord (constraintTag entry) "UNIQUE" = true

instance (item : Value) : Decidable (SaysUnique item) := inferInstanceAs (Decidable (_ ∨ _))

/-- Outside the key, a column is marked as unique exactly if its description says so. -/
theorem unique_marksOf_iff_of_not_key {item : Value} {typeName : String}
    (h : (marksOf item typeName).primaryKey = false) : (marksOf item typeName).unique = true ↔ SaysUnique item := by
  have hnotKey : ¬ (marksOf item typeName).primaryKey = true := by simp [h]
  rw [unique_marksOf_iff, SaysUnique, unique_uniqueMarks_iff]
  exact or_iff_right hnotKey

end ColumnDefinition

namespace TableConstraint

/-- The columns that the constraint lists are this one alone. -/
def ListsOnly (k : TableConstraint) (c : Column) : Prop :=
  k.columns ≠ [] ∧ ∀ name ∈ k.columns, Text.sameName c.name name = true

/-- The constraint is about several columns at once. -/
def ListsSeveral (k : TableConstraint) : Prop :=
  ∃ name ∈ k.columns, ∃ other ∈ k.columns, Text.sameName name other = false

instance (k : TableConstraint) (c : Column) : Decidable (k.ListsOnly c) := inferInstanceAs (Decidable (_ ∧ _))

theorem listsOnly_of_mem {k : TableConstraint} {c : Column} {name : String} (hname : name ∈ k.columns)
    (hc : Text.sameName c.name name = true) (h : ¬ k.ListsSeveral) : k.ListsOnly c := by
  refine ⟨List.ne_nil_of_mem hname, fun other hother => ?_⟩
  have hsame : Text.sameName name other = true := by
    by_contra hdiffers
    exact h ⟨name, hname, other, hother, by simpa using hdiffers⟩
  simp only [Text.sameName, beq_iff_eq] at hc hsame ⊢
  exact hc.trans hsame

end TableConstraint

namespace Extraction

/-- The statement says of the column by itself that its values are unique: with its description, or by
a UNIQUE constraint that lists no other column. -/
def DeclaresUnique (statement item : Value) (c : Column) : Prop :=
  ColumnDefinition.SaysUnique item ∨
    ∃ k ∈ TableConstraint.ofStatement statement, k.kind = .unique ∧ k.ListsOnly c

instance (statement item : Value) (c : Column) : Decidable (DeclaresUnique statement item c) :=
  inferInstanceAs (Decidable (_ ∨ _))

/-- No column outside the key is unique unless the statement declares it so by itself. -/
def KeepsUnique (statement : Value) (t : Table) : Prop :=
  ∀ (i : Nat) item c, (columnItems statement)[i]? = some item → t.columns[i]? = some c → c.primaryKey = false →
    c.unique = true → DeclaresUnique statement item c

/-! ### What the table says -/

theorem sameName_of_place {cs : List Column} {name : String} {c : Column} (h : cs[place cs name]? = some c) :
    Text.sameName c.name name = true := by
  rw [place, ← List.find?_eq_getElem?_findIdx] at h
  simpa using List.find?_some h

/-- Outside the key, a column is unique exactly if its description says so or a UNIQUE lists it. -/
theorem IsDescribed.unique_iff_of_not_key {v item : Value} {cs : List Column} {i : Nat} {d : ColumnDefinition}
    {c : Column} (h : IsDescribed v cs i d c) (hitem : definition? item = some d) (hkey : c.primaryKey = false) :
    c.unique = true ↔
      ColumnDefinition.SaysUnique item ∨ IsListed .unique (TableConstraint.ofStatement v) cs i := by
  have hnotKey : ¬ (c.primaryKey = true) := by simp [hkey]
  rw [h.primaryKey_iff, not_or] at hnotKey
  have hmarks := (isDefinitionOf_of_definition? hitem).marks_eq
  have hmarkKey : (ColumnDefinition.marksOf item d.typeName).primaryKey = false := by
    rw [← hmarks]
    simpa using hnotKey.1
  rw [h.unique_iff, hmarks, ColumnDefinition.unique_marksOf_iff_of_not_key hmarkKey]
  simp [hnotKey.2, hmarkKey]

/-- What a table makes of UNIQUE is stronger than the statement only where a UNIQUE over several columns
lists a column that is neither in the key nor declared unique by itself. -/
theorem IsTakenFrom.keeps_iff {before : List Value} {v : Value} {t : Table} (h : IsTakenFrom before v t) :
    KeepsUnique v t ↔ ∀ k ∈ TableConstraint.ofStatement v, k.kind = .unique → k.ListsSeveral →
      ∀ name ∈ k.columns, ∀ item c, (columnItems v)[place t.columns name]? = some item →
        t.columns[place t.columns name]? = some c → c.primaryKey = false → DeclaresUnique v item c := by
  obtain ⟨-, hcolumns⟩ := h.columns
  constructor
  · intro hkeeps k hk hkind _ name hname item c hitem hc hkey
    obtain ⟨d, hdefinition, hdescribed⟩ := hcolumns _ item c hitem hc
    have hlisted : IsListed .unique (TableConstraint.ofStatement v) t.columns (place t.columns name) :=
      ⟨k, hk, hkind, name, hname, rfl⟩
    exact hkeeps _ item c hitem hc hkey ((hdescribed.unique_iff_of_not_key hdefinition hkey).mpr (Or.inr hlisted))
  · intro hseveral i item c hitem hc hkey hunique
    obtain ⟨d, hdefinition, hdescribed⟩ := hcolumns _ item c hitem hc
    rcases (hdescribed.unique_iff_of_not_key hdefinition hkey).mp hunique with hsays | ⟨k, hk, hkind, name, hname, rfl⟩
    · exact Or.inl hsays
    · by_cases hk' : k.ListsSeveral
      · exact hseveral k hk hkind hk' name hname item c hitem hc hkey
      · exact Or.inr ⟨k, hk, hkind, TableConstraint.listsOnly_of_mem hname (sameName_of_place hc) hk'⟩

variable {serial next : Nat} {vs : List Value} {s : Schema}

/-- Extraction strengthens a UNIQUE of a statement only where that lists several columns: each table is
that of a statement, and it keeps to what the statement declares unique exactly if every column outside
the key that is listed so is declared unique by itself as well. -/
theorem keepsUnique_iff (h : Schema.ofStatements serial vs = .ok (s, next)) {t : Table} (ht : t ∈ s.tables) :
    ∃ before v after, vs = before ++ v :: after ∧ IsTakenFrom before v t ∧
      (KeepsUnique v t ↔ ∀ k ∈ TableConstraint.ofStatement v, k.kind = .unique → k.ListsSeveral →
        ∀ name ∈ k.columns, ∀ item c, (columnItems v)[place t.columns name]? = some item →
          t.columns[place t.columns name]? = some c → c.primaryKey = false → DeclaresUnique v item c) := by
  obtain ⟨before, v, after, hvs, hv⟩ := exists_statement h ht
  exact ⟨before, v, after, hvs, hv, hv.keeps_iff⟩

/-- A statement with integer columns and unique constraints over lists of them. -/
def uniqueStatement (columns : List (String × List (String × Value))) (lists : List (List String)) : Value :=
  .record [("type", .text "create"), ("keyword", .text "table"), ("table", .text "t"),
    ("create_definitions", .list <|
      (columns.map fun c => .record
        ([("column", .text c.1), ("definition", .record [("dataType", .text "INT")])] ++ c.2)) ++
      lists.map fun names => .record
        [("constraint_type", .text "UNIQUE"), ("definition", .list (names.map Value.text))])]

/-- Of the columns that are listed together, one is the key and the other is declared unique elsewhere. -/
theorem keepsUnique_pair :
    let v := uniqueStatement [("a", [("primary_key", .bool true)]), ("b", [("unique", .bool true)]), ("c", [])]
      [["a", "b"], ["c"]]
    let t : Table :=
      { id := .fresh 3, name := "t"
        columns := [
          { id := .fresh 0, name := "a", type := .int, primaryKey := true, nullable := false, unique := true },
          { id := .fresh 1, name := "b", type := .int, unique := true },
          { id := .fresh 2, name := "c", type := .int, unique := true }] }
    Schema.ofStatements 0 [v] = .ok ({ tables := [t] }, 4) ∧
      ∃ before w after, [v] = before ++ w :: after ∧ IsTakenFrom before w t ∧
        (KeepsUnique w t ↔ ∀ k ∈ TableConstraint.ofStatement w, k.kind = .unique → k.ListsSeveral →
          ∀ name ∈ k.columns, ∀ item c, (columnItems w)[place t.columns name]? = some item →
            t.columns[place t.columns name]? = some c → c.primaryKey = false → DeclaresUnique w item c) := by
  intro v t
  have hread : Schema.ofStatements 0 [v] = .ok ({ tables := [t] }, 4) := rfl
  exact ⟨hread, keepsUnique_iff hread (by simp)⟩

/-- Two columns that are unique together only, and of which each is marked as unique. -/
theorem not_keepsUnique_pair :
    let v := uniqueStatement [("a", []), ("b", [])] [["a", "b"]]
    let t : Table :=
      { id := .fresh 2, name := "t"
        columns := [
          { id := .fresh 0, name := "a", type := .int, unique := true },
          { id := .fresh 1, name := "b", type := .int, unique := true }] }
    Schema.ofStatements 0 [v] = .ok ({ tables := [t] }, 3) ∧ IsTakenFrom [] v t ∧ ¬ KeepsUnique v t := by
  intro v t
  have hread : Schema.ofStatements 0 [v] = .ok ({ tables := [t] }, 3) := rfl
  refine ⟨hread, ⟨rfl, rfl, ⟨0, 3, _, rfl, rfl⟩, List.forall_mem_nil _⟩, fun hkeeps => ?_⟩
  have hdeclared := hkeeps 0 _ _ rfl rfl rfl rfl
  revert hdeclared
  decide

end Extraction

end SchemaDesk
