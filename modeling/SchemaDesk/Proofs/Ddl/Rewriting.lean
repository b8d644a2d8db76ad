import SchemaDesk.Proofs.Reading.OneColumn
import SchemaDesk.Proofs.Reading.Schema
import SchemaDesk.Proofs.Reconciliation.Unedited
/-!
Schemas that were read for a script, and the scripts that are written for them. Names and defaults are written as
they are, without quotation marks of their own. So the script that is written may be no script at all, although
another one was read before.
-/

namespace SchemaDesk

open Sql Ddl Reconciliation

namespace Column

/-- MySQL takes a default behind the word `UNIQUE` for a default, and not for the name of a key. -/
def KeepsDefault (c : Column) (d : Dialect) : Prop :=
  d = .mysql → c.isUniqueAlone = true → ∀ s ∈ c.default, s = "" ∨ s = "NULL"

theorem isReadable_iff {c : Column} {d : Dialect} (hc : c.HasSimpleDefault) (hnumbers : c.HasNonnegativeNumbers) :
    c.IsReadable d ↔ c.KeepsDefault d := by
  refine ⟨fun hread hd hu s hs => ?_, isReadable_of_nonneg hc hnumbers⟩
  by_cases hempty : s = ""
  · exact Or.inl hempty
  · have hwritten : c.literal?.map Literal.written = some s := by
      rw [map_written_literal? hc]
      exact Option.filter_eq_some_iff.mpr ⟨hs, by simpa using hempty⟩
    obtain ⟨x, hx, rfl⟩ := Option.map_eq_some_iff.mp hwritten
    rw [hread.2 hd hu x hx]
    exact Or.inr (by decide)

end Column

namespace Schema

variable {s p : Schema} {d : Dialect} {madeAt text script : String} {serial next : Nat}

/-! ### Names -/

/-- A table is described with all its columns, in their order. -/
theorem map_name_typed_creation {t : Table} (hne : t.columns ≠ []) :
    (t.creation d).typed.table.columns.map (·.name) = t.columns.map (·.name) := by
  rw [CreateTable.map_name_table, CreateTable.map_name_typed, Table.definitions_creation hne, List.map_map]
  rfl

/-- A script that is read gives each table with all its columns, whatever they are called. -/
theorem exists_sameNames (hs : s.IsLegible d) (hnames : (s.tables.map fun t => Text.lower t.name).Nodup)
    (hat : IsStamp madeAt) (hread : s.IsReadable d) (serial : Nat) :
    ∃ p next, Reading.ofScript serial (s.script d madeAt) d = .ok (.schema p, next) ∧
      List.Forall₂ SameNames s.tables p.tables := by
  have hcreations : ∀ x ∈ s.tables.map (·.creation d), x.IsRead d := by
    rw [List.forall_mem_map]
    exact fun t ht => Table.isRead_creation (hs.columns t ht) (hread t ht)
  obtain ⟨p, next, hp, htables⟩ :=
    Page.tables_ofScript (isValid_page hs hat) (definitions_page s d madeAt) hcreations (definitions_creation_ne_nil hs)
      (by rw [List.map_map]; exact hnames) (script_eq hs hat ▸ script_ne_blank s d madeAt) serial
  rw [← script_eq hs hat] at hp
  rw [List.map_map] at htables
  refine ⟨p, next, hp, forall₂_of_map_eq htables fun t ht n hn => ?_⟩
  have hname : n.name = t.name := by injection hn
  have hcolumns : n.columns.map (Column.mapIds fun _ => .fresh 0) = (t.creation d).typed.table.columns :=
    congrArg Table.columns hn
  refine ⟨hname, ?_⟩
  rw [← map_name_typed_creation (hs.columns t ht), ← hcolumns, List.map_map]
  rfl

/-! ### Scripts of schemas that were read -/

/-- Names and defaults that stand in a script as they are: plain names, and defaults that are literals. -/
structure IsVerbatim (s : Schema) (d : Dialect) : Prop where
  tableNames : ∀ t ∈ s.tables, IsPlain d t.name
  columnNames : ∀ t ∈ s.tables, ∀ c ∈ t.columns, IsPlain d c.name
  defaults : ∀ t ∈ s.tables, ∀ c ∈ t.columns, c.HasSimpleDefault

theorem isLegible_of_ofScript (hs : Reading.ofScript serial text d = .ok (.schema s, next)) (h : s.IsVerbatim d) :
    s.IsLegible d where
  tableNames := h.tableNames
  columnNames := h.columnNames
  columns := by
    intro t ht
    obtain ⟨vs, -, hstatements⟩ := Reading.exists_statements hs
    obtain ⟨src, hsrc, rfl⟩ := Extraction.exists_isSource hstatements ht
    exact hsrc.columns_ne_nil
  defaults := h.defaults
  actions := by
    intro r hr
    obtain ⟨vs, -, hstatements⟩ := Reading.exists_statements hs
    have hknown {a : Option String} (ha : a = r.onDelete ∨ a = r.onUpdate) : ∀ x ∈ a, IsActionText x := by
      rintro x rfl
      have hmem := Extraction.mem_of_action hstatements hr ha
      simp only [List.mem_cons, Option.some.injEq, List.not_mem_nil, or_false] at hmem
      rcases hmem with rfl | rfl | rfl | rfl
      · exact Or.inr ⟨.cascade, rfl⟩
      · exact Or.inr ⟨.setNull, rfl⟩
      · exact Or.inr ⟨.restrict, rfl⟩
      · exact Or.inr ⟨.noAction, rfl⟩
    exact ⟨hknown (Or.inl rfl), hknown (Or.inr rfl)⟩

end Schema

/-! ### Scripts that are lost -/

namespace Script

def spacedName : String := "CREATE TABLE \"my table\" (a INT);"

/-- A default that is one backslash, which MySQL writes as two. -/
def backslash : String := "CREATE TABLE t (a TEXT DEFAULT '\\\\');"

/-- The word `UNIQUE` behind a default; a script has it in front. -/
def uniqueBehind : String := "CREATE TABLE t (a INT DEFAULT 5 UNIQUE);"

end Script

namespace Schema

/-- The script is read, but not the one that is written for its schema at the new year. -/
def IsLost (text : String) (d : Dialect) : Prop :=
  ∃ s next script, Reading.ofScript 0 text d = .ok (.schema s, next) ∧
    scriptOf (some s) d (.time newYear) = .ok script ∧
    ∀ serial p next', Reading.ofScript serial script d ≠ .ok (.schema p, next')

/-- The schema of one table with one column, with identifiers of a first reading. -/
def ofColumn (table : String) (c : Column) : Schema :=
  { tables := [{ id := .fresh 1, name := table, columns := [{ c with id := .fresh 0 }] }] }

def spacedName : Schema := ofColumn "my table" { id := .fresh 0, name := "a", type := .int }

def backslash : Schema := ofColumn "t" { id := .fresh 0, name := "a", type := .text, default := some "'\\'" }

def uniqueBehind : Schema :=
  ofColumn "t" { id := .fresh 0, name := "a", type := .int, unique := true, default := some "5" }

theorem ofScript_spacedName : Reading.ofScript 0 Script.spacedName .postgresql = .ok (.schema spacedName, 2) := by
  have hfind : Script.OneColumn.find? .postgresql Script.spacedName.toList =
      some (⟨⟨"my table", true, []⟩, ⟨"a", false, []⟩, "INT", []⟩, "INT") := by
    decide +kernel
  exact Reading.ofScript_of_oneColumn hfind (by decide) (by decide) (by decide +kernel) rfl (by decide +kernel)

theorem ofScript_backslash : Reading.ofScript 0 Script.backslash .mysql = .ok (.schema backslash, 2) := by
  have hfind : Script.OneColumn.find? .mysql Script.backslash.toList =
      some (⟨⟨"t", false, []⟩, ⟨"a", false, []⟩, "TEXT", [.default (.text ['\\'])]⟩, "TEXT") := by
    decide +kernel
  exact Reading.ofScript_of_oneColumn hfind (by decide) (by decide) (by decide +kernel) rfl (by decide +kernel)

theorem ofScript_uniqueBehind : Reading.ofScript 0 Script.uniqueBehind .mysql = .ok (.schema uniqueBehind, 2) := by
  have hfind : Script.OneColumn.find? .mysql Script.uniqueBehind.toList =
      some (⟨⟨"t", false, []⟩, ⟨"a", false, []⟩, "INT", [.default (.number false ['5']), .unique]⟩, "INT") := by
    decide +kernel
  exact Reading.ofScript_of_oneColumn hfind (by decide) (by decide) (by decide +kernel) rfl (by decide +kernel)

theorem isLost_spacedName : IsLost Script.spacedName .postgresql :=
  ⟨spacedName, 2, _, ofScript_spacedName, scriptOf_newYear _ _,
    Reading.ofScript_ne_of_isRefused (by decide +kernel) (script_ne_blank _ _ _)⟩

theorem isLost_backslash : IsLost Script.backslash .mysql :=
  ⟨backslash, 2, _, ofScript_backslash, scriptOf_newYear _ _,
    Reading.ofScript_ne_of_isRefused (by decide +kernel) (script_ne_blank _ _ _)⟩

/-- MySQL takes the word `DEFAULT` for the name of the key. -/
theorem isLost_uniqueBehind : IsLost Script.uniqueBehind .mysql := by
  have hverbatim : uniqueBehind.IsVerbatim .mysql := by
    constructor
    case tableNames => exact List.forall_mem_singleton.mpr (by decide : IsPlain .mysql "t")
    case columnNames =>
      exact List.forall_mem_singleton.mpr (List.forall_mem_singleton.mpr (by decide : IsPlain .mysql "a"))
    case defaults =>
      have hnumber : ∃ x : Literal, x.IsValid ∧ x.written = "5" := ⟨.number false ['5'], by simp [Literal.IsValid], rfl⟩
      refine List.forall_mem_singleton.mpr (List.forall_mem_singleton.mpr ?_)
      rintro s ⟨⟩ -
      exact hnumber
  have hlegible := isLegible_of_ofScript ofScript_uniqueBehind hverbatim
  refine ⟨uniqueBehind, 2, _, ofScript_uniqueBehind, scriptOf_newYear _ _, fun serial p next hp => ?_⟩
  have hread := isReadable_of_ofScript hlegible (DateTime.isStamp_text text_newYear) hp
  have hcolumn := hread _ (List.mem_singleton_self _) _ (List.mem_singleton_self _)
  have hkept := (Column.isReadable_iff (hlegible.defaults _ (List.mem_singleton_self _) _ (List.mem_singleton_self _))
    (by simp [Column.HasNonnegativeNumbers])).mp hcolumn
  exact absurd (hkept rfl rfl "5" rfl) (by decide)

end Schema

end SchemaDesk
