import SchemaDesk.Proofs.Ddl.LineDescription
import SchemaDesk.Proofs.Ddl.SourceTypes
import SchemaDesk.Proofs.Extraction.Content
/-!
How the statements that create tables are described, and which tables the descriptions give.
-/

namespace SchemaDesk.Ddl

open Sql

variable {d : Dialect}

/-! ### Lines -/

namespace Line

/-- The column that the line defines. -/
def definition? : Line → Option ColumnDefinition
  | column name type clauses => some (definition name type clauses)
  | key _ _ => none

/-- The constraint that the line is. -/
def constraint? : Line → Option TableConstraint
  | column .. => none
  | key first more => some { kind := .primaryKey, columns := first :: more }

theorem columnRefs_names {ss : List String} (h : ∀ s ∈ ss, s ≠ "") :
    Describe.columnRefs (names ss) = .list (ss.map Describe.columnRef) := by
  have hheart : (names ss).filterMap Expr.heart? = ss := by
    induction ss with
    | nil => rfl
    | cons s ss ih =>
      have hs : s ≠ "" := h s (by simp)
      have hname : (Expr.name { text := s }).heart? = some s := by simp [Expr.heart?, Expr.someName, hs]
      rw [names, List.map_cons, List.filterMap_cons_some hname]
      exact congrArg (s :: ·) (ih fun x hx => h x (by simp [hx]))
  rw [Describe.columnRefs, hheart]

/-- A line whose description can be understood: it has names, and its type has a known word. -/
def IsDescribable (d : Dialect) : Line → Prop
  | column name type _ => name ≠ "" ∧ type.IsWorded d
  | key first more => ∀ s ∈ first :: more, s ≠ ""

theorem IsValid.isDescribable {x : Line} (hx : x.IsValid d) : x.IsDescribable d := by
  cases x with
  | column name type clauses => exact ⟨hx.1.ne_empty, hx.2.1.isWorded⟩
  | key first more => exact fun s hs => (hx s hs).ne_empty

/-- The line with the word that is found for the type of its column. -/
def typed (types : List (String × String)) : Line → Line
  | column name type clauses =>
    column name { type with name := (SourceType.ofColumn? types name).getD type.name } clauses
  | key first more => key first more

theorem tableItem_eq {x : Line} (hx : x.IsValid d) (hread : x.IsRead d) {types : List (String × String)}
    (htypes : ∀ p ∈ x.sourceType?, ∃ w, TypeWords.IsWord d w ∧ types.lookup p.1 = some w) :
    Describe.tableItem d types (x.item d) = .ok ((x.typed types).description d) := by
  cases x with
  | column name type clauses =>
    obtain ⟨w, hw, hlookup⟩ := htypes _ rfl
    have htype : SourceType.ofColumn? types name = some w := hlookup
    show Describe.column d name (some type.expr) _ (SourceType.ofColumn? types name) = _
    rw [typed, htype, Describe.column, TypeWords.dataType_eq hx.2.1 hread.1 hw]
    rfl
  | key first more =>
    show Except.ok (Describe.constraint none "primary key"
      [("definition", Describe.columnRefs (names (first :: more)))]) = _
    rw [columnRefs_names hx.isDescribable]
    rfl

theorem nameText?_columnRef {s : String} (hs : s ≠ "") : (Describe.columnRef s).nameText? = some s := by
  simp [Describe.columnRef, Describe.tagged, Value.nameText?, Value.nameField?, hs, Value.isNull]

theorem namesOf_columnRefs {ss : List String} (h : ∀ s ∈ ss, s ≠ "") :
    namesOf (.list (ss.map Describe.columnRef)) = ss := by
  show (ss.map Describe.columnRef).filterMap Value.nameText? = ss
  rw [List.filterMap_map]
  conv_rhs => rw [← List.filterMap_some (l := ss)]
  exact List.filterMap_congr fun s hs => nameText?_columnRef (h s hs)

theorem constraintOfValue?_description {x : Line} (hx : x.IsDescribable d) :
    TableConstraint.ofValue? (x.description d) = x.constraint? := by
  cases x with
  | column name type clauses =>
    have hcolumn : TableConstraint.describesColumn ((column name type clauses).description d) = true := by
      rw [TableConstraint.describesColumn, get_description, if_pos rfl]
      rfl
    rw [TableConstraint.ofValue?, hcolumn, Bool.or_true, Bool.true_or, if_pos rfl]
    rfl
  | key first more =>
    have hupper : Text.upper "primary key" = "PRIMARY KEY" := by decide +kernel
    have htag : TableConstraint.tag ((key first more).description d) = "PRIMARY KEY" := hupper
    have hnames := namesOf_columnRefs hx
    have hkind : TableConstraint.ofKind .primaryKey ((key first more).description d) =
        { kind := .primaryKey, columns := namesOf (.list ((first :: more).map Describe.columnRef)) } := rfl
    have hnot : TableConstraint.describesColumn ((key first more).description d) = false := rfl
    rw [TableConstraint.ofValue?, htag, hnot, if_neg (by simp [description, Describe.constraint, Value.isRecord])]
    show some (TableConstraint.ofKind .primaryKey _) = _
    rw [hkind, hnames]
    rfl

/-- The item describes a column as far as the extraction is concerned. -/
theorem isColumn_description (x : Line) :
    ((x.description d).isRecord && (Extraction.hasText (x.description d) "resource" "column" ||
      ((x.description d).get "column").truthy)) = x.definition?.isSome := by
  cases x with
  | column name type clauses =>
    have hresource : Extraction.hasText ((column name type clauses).description d) "resource" "column" = true := by
      rw [Extraction.hasText, get_description, if_pos rfl]
      rfl
    rw [hresource]
    rfl
  | key first more => rfl

theorem definitions_description {xs : List Line} (h : ∀ x ∈ xs, x.IsDescribable d) :
    Extraction.definitions ((xs.map (description d)).filter fun item => item.isRecord &&
      (Extraction.hasText item "resource" "column" || (item.get "column").truthy)) =
        .ok (xs.filterMap definition?) := by
  induction xs with
  | nil => rfl
  | cons x xs ih =>
    have hxs := ih fun y hy => h y (by simp [hy])
    rw [List.map_cons, List.filter_cons, isColumn_description]
    cases x with
    | column name type clauses =>
      obtain ⟨hname, htype⟩ := h (column name type clauses) (by simp)
      rw [definition?, Option.isSome_some, if_pos rfl, Extraction.definitions,
        ofValue?_description hname htype, hxs]
      rfl
    | key first more =>
      rw [if_neg (by simp [definition?]), hxs]
      rfl

end Line

/-! ### Tables -/

namespace CreateTable

/-- The lines of a table. -/
def lines (x : CreateTable) : List Line := x.first :: x.more

/-- The description of a table. -/
def description (d : Dialect) (x : CreateTable) : Value :=
  Describe.tagged "create" [("keyword", .text "table"), ("table", .list [.record [("table", .text x.name)]]),
    ("create_definitions", .list (x.lines.map (Line.description d)))]

theorem mapM_map_ok {α β ε γ : Type} {f : β → Except ε γ} {g : α → β} {h : α → γ} {as : List α}
    (hf : ∀ a ∈ as, f (g a) = .ok (h a)) : (as.map g).mapM f = .ok (as.map h) := by
  induction as with
  | nil => rfl
  | cons a as ih =>
    rw [List.map_cons, List.mapM_cons, hf a (by simp), ih fun b hb => hf b (by simp [hb])]
    rfl

theorem lookup_of_mem {α : Type} {l : List (String × α)} (h : (l.map Prod.fst).Nodup) {p : String × α}
    (hp : p ∈ l) : l.lookup p.1 = some p.2 := by
  induction l with
  | nil => cases hp
  | cons q l ih =>
    rw [List.map_cons, List.nodup_cons] at h
    rw [lookup_cons]
    rcases List.mem_cons.mp hp with rfl | hp
    · exact if_pos rfl
    · have hne : p.1 ≠ q.1 := fun heq => h.1 (heq ▸ List.mem_map_of_mem hp)
      rw [if_neg hne]
      exact ih h.2 hp

/-- The table as it is described: of several columns of one name, each one has the type word of the first. -/
def typed (x : CreateTable) : CreateTable :=
  { x with first := x.first.typed x.sourceTypes.2, more := x.more.map (Line.typed x.sourceTypes.2) }

theorem lines_typed (x : CreateTable) : x.typed.lines = x.lines.map (Line.typed x.sourceTypes.2) := rfl

/-- A line whose description can be understood as a whole. -/
def IsDescribable (d : Dialect) (x : CreateTable) : Prop := x.name ≠ "" ∧ ∀ y ∈ x.lines, y.IsDescribable d

theorem IsValid.isDescribable {x : CreateTable} (hx : x.IsValid d) : x.IsDescribable d :=
  ⟨hx.1.ne_empty, fun y hy => (hx.2 y hy).isDescribable⟩

/-- The word that is found for a column is that of some type. -/
theorem exists_lookup_sourceTypes {x : CreateTable} (hx : x.IsValid d) {y : Line} (hy : y ∈ x.lines) :
    ∀ p ∈ y.sourceType?, ∃ w, TypeWords.IsWord d w ∧ x.sourceTypes.2.lookup p.1 = some w := by
  intro p hp
  have hmem : p ∈ x.sourceTypes.2 := List.mem_filterMap.mpr ⟨y, hy, hp⟩
  obtain ⟨w, hw⟩ : ∃ w, x.sourceTypes.2.lookup p.1 = some w := by
    cases hlookup : x.sourceTypes.2.lookup p.1 with
    | none => exact absurd (List.lookup_eq_none_iff.mp hlookup p hmem) (by simp)
    | some w => exact ⟨w, rfl⟩
  obtain ⟨before, behind, heq, -⟩ := List.lookup_eq_some_iff.mp hw
  have hfound : (p.1, w) ∈ x.sourceTypes.2 := by simp [heq]
  obtain ⟨z, hz, hzw⟩ := List.mem_filterMap.mp hfound
  cases z with
  | column name type clauses =>
    obtain ⟨-, rfl⟩ := Prod.mk.inj (Option.some.inj hzw)
    exact ⟨_, (hx.2 _ hz).2.1.isWord, hw⟩
  | key first more => cases hzw

theorem IsValid.isDescribable_typed {x : CreateTable} (hx : x.IsValid d) : x.typed.IsDescribable d := by
  refine ⟨hx.1.ne_empty, fun y hy => ?_⟩
  rw [lines_typed, List.mem_map] at hy
  obtain ⟨z, hz, rfl⟩ := hy
  have hdescribable := (hx.2 z hz).isDescribable
  cases z with
  | column name type clauses =>
    obtain ⟨w, hw, hlookup⟩ := exists_lookup_sourceTypes hx hz _ rfl
    have hfound : SourceType.ofColumn? x.sourceTypes.2 name = some w := hlookup
    rw [Line.typed, hfound]
    exact ⟨hdescribable.1, hw, hdescribable.2.few⟩
  | key first more => exact hdescribable

theorem statement_eq {x : CreateTable} (hx : x.IsValid d) (hread : x.IsRead d) {types : SourceType.Types}
    (htypes : types.lookup x.sourceTypes.1 = some x.sourceTypes.2) :
    Describe.statement d types (x.statement d) = .ok (x.typed.description d) := by
  have hname : x.name ≠ "" := hx.1.ne_empty
  have htable : SourceType.ofTable types x.name = x.sourceTypes.2 := by
    have hlookup : types.lookup (Text.lower x.name) = some x.sourceTypes.2 := htypes
    rw [SourceType.ofTable, hlookup, Option.getD_some]
  have hitems : (x.lines.map (Line.item d)).mapM (Describe.tableItem d x.sourceTypes.2) =
      .ok (x.typed.lines.map (Line.description d)) := by
    rw [lines_typed, List.map_map]
    exact mapM_map_ok fun y hy => Line.tableItem_eq (hx.2 y hy) (hread y hy) (exists_lookup_sourceTypes hx hy)
  have hcolumns : (if (tableNamed x.name).name.text == "" then [] else
      SourceType.ofTable types (tableNamed x.name).name.text) = x.sourceTypes.2 := by
    rw [tableNamed, if_neg (by simpa using hname)]
    exact htable
  show Describe.statement d types (.createTable (tableNamed x.name) (x.lines.map (Line.item d))) = _
  rw [Describe.statement, hcolumns, hitems, description, Describe.tableRef, tableNamed,
    if_neg (by simpa using hname)]
  rfl

/-- The columns of the table have different names, whatever the letter case. -/
def HasDistinctColumns (x : CreateTable) : Prop := (x.sourceTypes.2.map Prod.fst).Nodup

theorem typed_eq_self {x : CreateTable} (h : x.HasDistinctColumns) : x.typed = x := by
  have hline : ∀ y ∈ x.lines, y.typed x.sourceTypes.2 = y := by
    intro y hy
    cases y with
    | column name type clauses =>
      have hmem : (Text.lower name, type.name) ∈ x.sourceTypes.2 := List.mem_filterMap.mpr ⟨_, hy, rfl⟩
      have hfound : SourceType.ofColumn? x.sourceTypes.2 name = some type.name := lookup_of_mem h hmem
      rw [Line.typed, hfound]
      rfl
    | key first more => rfl
  have hfirst : x.first.typed x.sourceTypes.2 = x.first := hline x.first (by simp [lines])
  have hmore : x.more.map (Line.typed x.sourceTypes.2) = x.more :=
    (List.map_congr_left fun y hy => hline y (by simp [lines, hy])).trans (List.map_id _)
  rw [typed, hfirst, hmore]

theorem createdName?_description {x : CreateTable} (hname : x.name ≠ "") :
    Extraction.createdName? (x.description d) = some x.name := by
  have htable : tableName? (x.description d) = some x.name := by
    show (Value.record [("table", .text x.name)]).nameText? = some x.name
    simp [Value.nameText?, Value.nameField?, hname, Value.isNull]
  rw [Extraction.createdName?, htable]
  rfl

theorem alteredKeys_description (sources : List TableSource) (x : CreateTable) :
    Extraction.alteredKeys sources (x.description d) = [] := rfl

/-- The columns that the statement defines. -/
def definitions (x : CreateTable) : List ColumnDefinition := x.lines.filterMap Line.definition?

def constraints (x : CreateTable) : List TableConstraint := x.lines.filterMap Line.constraint?

theorem definitions_description {x : CreateTable} (hx : x.IsDescribable d) :
    Extraction.definitions (Extraction.columnDescriptions (x.description d)) = .ok x.definitions :=
  Line.definitions_description hx.2

theorem constraints_description {x : CreateTable} (hx : x.IsDescribable d) :
    TableConstraint.ofStatement (x.description d) = x.constraints := by
  show (x.lines.map (Line.description d) ++ []).filterMap TableConstraint.ofValue? = _
  rw [List.append_nil, List.filterMap_map]
  exact List.filterMap_congr fun y hy => Line.constraintOfValue?_description (hx.2 y hy)

/-- The table that the statement gives, identifiers left out. -/
def table (x : CreateTable) : Table :=
  { id := .fresh 0
    name := x.name
    columns := Extraction.applyConstraints (x.definitions.map (Extraction.column 0)) x.constraints }

theorem map_columns_withoutIds (serial : Nat) (ds : List ColumnDefinition) :
    (Extraction.columns serial ds).map (Column.mapIds fun _ => .fresh 0) =
      ds.map (Extraction.column 0) := by
  induction ds generalizing serial with
  | nil => rfl
  | cons d ds ih =>
    rw [Extraction.columns, List.map_cons, ih]
    rfl

theorem content_description {x : CreateTable} (hx : x.IsDescribable d) (hne : x.definitions ≠ []) :
    Extraction.content (x.name, x.description d) = .ok (some ⟨x.table, x.constraints, []⟩) := by
  have hinline : (x.definitions.filterMap fun d => d.reference.map fun r => (d.name, r)) = [] := by
    refine List.filterMap_eq_nil_iff.mpr fun e he => ?_
    obtain ⟨y, -, hy⟩ := List.mem_filterMap.mp he
    cases y with
    | column name type clauses =>
      obtain rfl := Option.some.inj hy
      rfl
    | key first more => cases hy
  have hsource : Extraction.source? 0 x.name (x.description d) = .ok (some (⟨{
      id := .fresh (0 + x.definitions.length)
      name := x.name
      columns := Extraction.applyConstraints (Extraction.columns 0 x.definitions) x.constraints },
      x.constraints, []⟩, 0 + x.definitions.length + 1)) := by
    rw [Extraction.source?, definitions_description hx, constraints_description hx]
    simp only [Except.map, hinline]
    rw [if_neg (by simpa using hne)]
  rw [Extraction.content_of_source? hsource, Extraction.withoutIds, TableSource.mapIds, Table.mapIds,
    Extraction.map_applyConstraints, map_columns_withoutIds]
  rfl

end CreateTable

end SchemaDesk.Ddl
