import SchemaDesk.Proofs.Reading.OneColumn
import SchemaDesk.Proofs.Reading.Origin
/-!
Where the types of the columns of a schema come from: each column has the type that stands behind its own name in the
statement of its table, unless the search for the words of the type finds something else.
-/

namespace SchemaDesk

open Sql Extraction

/-! ### Columns of a statement -/

/-- The column has the name that is written, and the type that its definition says if that is found. -/
structure IsTyped (found : Prop) (c : Column) (e : ColumnEntry) : Prop where
  name_eq : c.name = e.name.text
  type_eq : found → c.type = e.ownType

namespace Sql.Layout

variable {d : Dialect} {types : List (String × String)}

theorem exists_of_mapM_singleton {item : TableItem} {vs : List Value}
    (h : [item].mapM (Describe.tableItem d types) = .ok vs) :
    ∃ v, Describe.tableItem d types item = .ok v ∧ vs = [v] := by
  rw [List.mapM_cons, List.mapM_nil] at h
  cases hv : Describe.tableItem d types item with
  | error f => rw [hv] at h; cases h
  | ok v =>
    rw [hv] at h
    exact ⟨v, rfl, (Except.ok.inj h).symm⟩

theorem exists_column_of_definition? {item : TableItem} {v : Value} (h : Describe.tableItem d types item = .ok v)
    {e : ColumnDefinition} (he : definition? v = some e) :
    ∃ name type constraints, item = .column name type constraints := by
  rw [definition?] at he
  split at he
  · next found hfound =>
    subst he
    exact Describe.exists_column_of_ofValue? h hfound
  · cases he

/-- The descriptions that define a column are those of the columns in the layout, as far as they define one. -/
theorem sublistForall₂_placed {es : List TableEntry} (hes : ∀ e ∈ es, e.IsValid) {vs : List Value}
    (h : (es.flatMap TableEntry.items).mapM (Describe.tableItem d types) = .ok vs) (earlier : List TableEntry) :
    List.SublistForall₂ (fun v p => Describe.tableItem d types p.2.item = .ok v)
      (vs.filter fun v => (definition? v).isSome) (placed earlier es) := by
  induction es generalizing vs earlier with
  | nil =>
    obtain rfl := Except.ok.inj h
    exact .nil
  | cons e es ih =>
    rw [List.forall_mem_cons] at hes
    rw [List.flatMap_cons, List.mapM_append] at h
    cases hitems : e.items.mapM (Describe.tableItem d types) with
    | error f => rw [hitems] at h; cases h
    | ok us =>
      cases hrest : (es.flatMap TableEntry.items).mapM (Describe.tableItem d types) with
      | error f => rw [hitems, hrest] at h; cases h
      | ok ws =>
        rw [hitems, hrest] at h
        obtain rfl := Except.ok.inj h
        have hws := ih hes.2 hrest (earlier ++ [e])
        rw [List.filter_append]
        cases e with
        | column c =>
          obtain ⟨v, hv, rfl⟩ := exists_of_mapM_singleton hitems
          cases hdefinition : (definition? v).isSome with
          | true =>
            have hkept : [v].filter (fun v => (definition? v).isSome) = [v] := by simp [hdefinition]
            rw [hkept]
            exact .cons hv hws
          | false =>
            have hdropped : [v].filter (fun v => (definition? v).isSome) = [] := by simp [hdefinition]
            rw [hdropped]
            exact .cons_right hws
        | other tokens items =>
          have hnone : us.filter (fun v => (definition? v).isSome) = [] := by
            refine List.filter_eq_nil_iff.mpr fun v hv hdefinition => ?_
            obtain ⟨item, hitem, hitemv⟩ := Describe.exists_of_mem_mapM hitems hv
            obtain ⟨definition, hdefinition⟩ := Option.isSome_iff_exists.mp hdefinition
            obtain ⟨name, type, constraints, rfl⟩ := exists_column_of_definition? hitemv hdefinition
            exact hes.1.2 _ hitem name type constraints rfl
          rw [hnone]
          exact hws

/-- The description of a statement has those of its items, which look for types under the name of the table. -/
theorem exists_definitions {all : SourceType.Types} {table : TableName} {items : List TableItem} {v : Value}
    (h : Describe.statement d all (.createTable table items) = .ok v) :
    ∃ vs, items.mapM (Describe.tableItem d
        (if table.name.text == "" then [] else SourceType.ofTable all table.name.text)) = .ok vs ∧
      tableName? v = (Describe.tableRef table).firstItem.nameText? ∧
      columnItems v = vs.filter fun w => (definition? w).isSome := by
  rw [Describe.statement] at h
  cases hvs : items.mapM (Describe.tableItem d
      (if table.name.text == "" then [] else SourceType.ofTable all table.name.text)) with
  | error f => rw [hvs] at h; cases h
  | ok vs =>
    rw [hvs] at h
    obtain rfl := Except.ok.inj h
    refine ⟨vs, rfl, rfl, ?_⟩
    have hdescriptions : columnDescriptions (Describe.tagged "create" [("keyword", .text "table"),
        ("table", Describe.tableRef table), ("create_definitions", .list vs)]) =
        vs.filter fun item => item.isRecord && (hasText item "resource" "column" || (item.get "column").truthy) := rfl
    rw [columnItems, hdescriptions, List.filter_filter]
    refine List.filter_congr fun w hw => ?_
    cases hdefinition : definition? w with
    | none => rfl
    | some e =>
      obtain ⟨item, -, hitem⟩ := Describe.exists_of_mem_mapM hvs hw
      obtain ⟨name, type, constraints, rfl⟩ := exists_column_of_definition? hitem hdefinition
      obtain ⟨definition, -, rfl⟩ := Describe.exists_of_column hitem
      rfl

theorem nameText?_tableRef {table : TableName} {name : String}
    (h : (Describe.tableRef table).firstItem.nameText? = some name) :
    table.name.text = name ∧ (table.name.text == "") = false := by
  rw [Describe.tableRef] at h
  split at h
  · cases h
  · next hne =>
    have hne : table.name.text ≠ "" := by simpa using hne
    have hname : (Describe.tableRef table).firstItem.nameText? = some table.name.text := by
      rw [Describe.tableRef, if_neg (by simpa using hne)]
      show (Value.record [("table", .text table.name.text)]).nameText? = some table.name.text
      simp [Value.nameText?, Value.nameField?, hne, Value.isNull]
    rw [Describe.tableRef, if_neg (by simpa using hne)] at hname
    exact ⟨Option.some.inj (hname.symm.trans h), by simpa using hne⟩

/-- A column that its own definition is found for has the name and the type that are written there. -/
theorem IsOf.isTyped {l : Layout} {chunk tokens : List Token} {table : TableName} {items : List TableItem}
    {before after : List (List Token)} (h : l.IsOf chunk table items)
    (hchunks : Grammar.chunks tokens = before ++ chunk :: after) {p : List TableEntry × ColumnEntry}
    (hp : p ∈ l.columns) {v : Value}
    (hv : Describe.tableItem d (SourceType.ofTable (SourceType.all tokens) table.name.text) p.2.item = .ok v)
    {e : ColumnDefinition} (he : definition? v = some e) {c : Column} (hname : c.name = e.name)
    (htype : c.type = columnType e) : IsTyped (IsFound before l p.1 p.2) c p.2 := by
  obtain ⟨earlier, later, hentries, -⟩ := exists_of_mem_placed hp
  have hvalid : p.2.IsValid := h.entries (.column p.2) (by simp [hentries])
  refine ⟨?_, fun hfound => ?_⟩
  · rw [hname, Describe.name_eq_of_column hv he, hvalid.name_eq]
  · have hsome : p.2.type.isSome = true := Describe.type_isSome_of_column hv he
    rw [ColumnEntry.item, Describe.tableItem, h.ofColumn?_eq hchunks hp hsome hfound] at hv
    rw [htype, Describe.columnType_of_column (hvalid.typed hsome) hfound.plain hv he]
    rfl

end Sql.Layout

/-! ### Tables -/

/-- The table is that of a statement of the script, and wherever the tokens of the statement are laid out as it is read,
its columns are in order columns of the layout. Each has the type that its own definition says if `found` holds. -/
def HasOwnTypes (found : List (List Token) → Layout → List TableEntry → ColumnEntry → Prop) (d : Dialect)
    (script : String) (t : Table) : Prop :=
  ∃ tokens before chunk after table items, Lexer.tokens? d script.toList = some tokens ∧
    Grammar.chunks tokens = before ++ chunk :: after ∧
    Script.Defines d script.toList tokens before chunk table items t ∧
    ∀ l : Layout, l.IsOf chunk table items → t.name = l.name.text ∧
      List.SublistForall₂ (fun c p => IsTyped (found before l p.1 p.2) c p.2) t.columns l.columns

/-! ### Two scripts

A script in which all types are found, and one with a bound between the brackets of a type. Both are read by
evaluation. -/

namespace Script

/-- Two columns of a table with a qualified name. One counts up, and the other one has a type of which the canonical
name is another one. -/
def items : String := "CREATE TABLE shop.items (id BIGINT AUTO_INCREMENT, price NUMERIC);"

def idEntry : ColumnEntry where
  name := ⟨.word, "id", 25, 26, []⟩
  rest := [⟨.type "BIGINT", "BIGINT", 28, 33, []⟩, ⟨.keyword "AUTO_INCREMENT", "AUTO_INCREMENT", 35, 48, []⟩]
  read := .name ⟨"id", false, []⟩
  type := some (.named "BIGINT" [])
  constraints := [⟨none, some .autoIncrement, []⟩]

def priceEntry : ColumnEntry where
  name := ⟨.word, "price", 51, 55, []⟩
  rest := [⟨.type "DECIMAL", "NUMERIC", 57, 63, []⟩]
  read := .name ⟨"price", false, []⟩
  type := some (.named "DECIMAL" [])
  constraints := []

def itemsName : TableName := ⟨[⟨"shop", false, []⟩], ⟨"items", false, []⟩, []⟩

def itemsLayout : Layout where
  front := [⟨.keyword "CREATE", "CREATE", 0, 5, []⟩, ⟨.keyword "TABLE", "TABLE", 7, 11, []⟩,
    ⟨.word, "shop", 13, 16, []⟩, ⟨.mark ".", ".", 17, 17, []⟩]
  name := ⟨.word, "items", 18, 22, []⟩
  opening := ⟨.mark "(", "(", 24, 24, []⟩
  first := .column idEntry
  more := [(⟨.mark ",", ",", 49, 49, []⟩, .column priceEntry)]
  closing := ⟨.mark ")", ")", 64, 64, []⟩
  rest := []

def itemsTokens : List Token := itemsLayout.tokens ++ [⟨.mark ";", ";", 65, 65, []⟩]

theorem tokens?_items : Lexer.tokens? .mysql items.toList = some itemsTokens :=
  tokens?_of_plainTokens? (by decide +kernel)

/-- The names in the statement, if it is a table with a qualified name and two columns, the first of which counts up. -/
def twoColumns? : Except SyntaxFault (Option Statement) → Option (List Ident × List String)
  | .ok (some (.createTable ⟨[q], t, []⟩ [.column (.name i) (some (.named type [])) [⟨none, some .autoIncrement, []⟩],
      .column (.name j) (some (.named other [])) []])) => some ([q, t, i, j], [type, other])
  | _ => none

theorem eq_of_twoColumns? {r : Except SyntaxFault (Option Statement)} {q t i j : Ident} {type other : String}
    (h : twoColumns? r = some ([q, t, i, j], [type, other])) :
    r = .ok (some (.createTable ⟨[q], t, []⟩ [
      .column (.name i) (some (.named type [])) [⟨none, some .autoIncrement, []⟩],
      .column (.name j) (some (.named other [])) []])) := by
  unfold twoColumns? at h
  split at h
  · cases h
    rfl
  · cases h

theorem read_items : Grammar.statementOfChunk .mysql items.toList itemsLayout.tokens =
    .ok (some (.createTable itemsName [idEntry.item, priceEntry.item])) :=
  eq_of_twoColumns? (by decide +kernel)

theorem isOf_items : itemsLayout.IsOf itemsLayout.tokens itemsName [idEntry.item, priceEntry.item] where
  tokens_eq := rfl
  creates := by decide
  kind := by decide
  plain := by decide
  name_eq := rfl
  named := rfl
  opens := by decide
  closes := by decide
  commas := by decide
  entries := by
    have hid : idEntry.IsValid := ⟨by decide, by decide, rfl, fun _ => by decide⟩
    have hprice : priceEntry.IsValid := ⟨by decide, by decide, rfl, fun _ => by decide⟩
    exact List.forall_mem_cons.mpr ⟨hid, List.forall_mem_singleton.mpr hprice⟩
  items_eq := rfl

theorem isFound_items : ∀ p ∈ itemsLayout.columns, Layout.IsFound [] itemsLayout p.1 p.2 := by
  have htable : itemsLayout.name.caseless ∉ "TABLE" :: SourceType.prefixWords := by decide
  have hid : Layout.IsFound [] itemsLayout [] idEntry :=
    ⟨htable, nofun, by decide, nofun, by decide, by decide⟩
  have hcolumn : SourceType.column? idEntry.tokens = some ("id", "BIGINT") := by decide
  have hprice : Layout.IsFound [] itemsLayout [.column idEntry] priceEntry := by
    refine ⟨htable, nofun, by decide, ?_, by decide, by decide⟩
    refine List.forall_mem_singleton.mpr fun q hq => ?_
    obtain rfl : q = ("id", "BIGINT") := Option.some.inj (hq.symm.trans hcolumn)
    decide
  exact List.forall_mem_cons.mpr ⟨hid, List.forall_mem_singleton.mpr hprice⟩

def itemsTable : Table :=
  { id := .fresh 2, name := "items"
    columns := [{ id := .fresh 0, name := "id", type := .bigserial },
      { id := .fresh 1, name := "price", type := .numeric }] }

theorem ofScript_items : Reading.ofScript 0 items .mysql = .ok (.schema { tables := [itemsTable] }, 3) := by
  have hid : SourceType.ofColumn? (SourceType.ofTable (SourceType.all itemsTokens) "items") "id" = some "BIGINT" := by
    decide
  have hprice : SourceType.ofColumn? (SourceType.ofTable (SourceType.all itemsTokens) "items") "price" =
      some "NUMERIC" := by decide
  have hplain (type : String) (h : type = "BIGINT" ∨ type = "DECIMAL") :
      Describe.splitParameters ((TypeExpr.named type []).render .mysql).toList = none := by
    simp only [TypeExpr.render, Expr.renders]
    rcases h with rfl | rfl <;> decide
  have hitems : [idEntry.item, priceEntry.item].mapM (Describe.tableItem .mysql
      (SourceType.ofTable (SourceType.all itemsTokens) "items")) = .ok
          [Describe.columnOf .mysql "id" (.record [("dataType", .text (Text.collapse (Text.upper "BIGINT")))])
            idEntry.constraints,
          Describe.columnOf .mysql "price" (.record [("dataType", .text (Text.collapse (Text.upper "NUMERIC")))])
            []] := by
    simp only [List.mapM_cons, List.mapM_nil, ColumnEntry.item, idEntry, priceEntry, Describe.tableItem, Expr.plainName,
      hid, hprice, Describe.column_eq (by decide : ("BIGINT" : String) ≠ "") (hplain "BIGINT" (Or.inl rfl)),
      Describe.column_eq (by decide : ("NUMERIC" : String) ≠ "") (hplain "DECIMAL" (Or.inr rfl))]
    rfl
  exact Reading.ofScript_of_statement (statements_of_chunk tokens?_items rfl read_items) rfl
    (Describe.statement_eq (by decide) hitems) rfl (by decide)

/-- A script with a bound between the brackets of a type. -/
def bounded : String := "CREATE TABLE t (a INT[3]);"

def boundedEntry : ColumnEntry where
  name := ⟨.word, "a", 16, 16, []⟩
  rest := [⟨.type "INT", "INT", 18, 20, []⟩, ⟨.mark "[", "[", 21, 21, []⟩, ⟨.number, "3", 22, 22, []⟩,
    ⟨.mark "]", "]", 23, 23, []⟩]
  read := .name ⟨"a", false, []⟩
  type := some (.array (.named "INT" []) [.number "3"])
  constraints := []

def boundedName : TableName := ⟨[], ⟨"t", false, []⟩, []⟩

def boundedLayout : Layout where
  front := [⟨.keyword "CREATE", "CREATE", 0, 5, []⟩, ⟨.keyword "TABLE", "TABLE", 7, 11, []⟩]
  name := ⟨.word, "t", 13, 13, []⟩
  opening := ⟨.mark "(", "(", 15, 15, []⟩
  first := .column boundedEntry
  more := []
  closing := ⟨.mark ")", ")", 24, 24, []⟩
  rest := []

def boundedTokens : List Token := boundedLayout.tokens ++ [⟨.mark ";", ";", 25, 25, []⟩]

theorem tokens?_bounded : Lexer.tokens? .postgresql bounded.toList = some boundedTokens :=
  tokens?_of_plainTokens? (by decide +kernel)

/-- The words in the statement, if it is a table with one column of an array type. -/
def arrayColumn? : Except SyntaxFault (Option Statement) → Option (Ident × Ident × String × String)
  | .ok (some (.createTable ⟨[], t, []⟩ [.column (.name c) (some (.array (.named type []) [.number n])) []])) =>
    some (t, c, type, n)
  | _ => none

theorem eq_of_arrayColumn? {r : Except SyntaxFault (Option Statement)} {t c : Ident} {type n : String}
    (h : arrayColumn? r = some (t, c, type, n)) :
    r = .ok (some (.createTable ⟨[], t, []⟩ [.column (.name c) (some (.array (.named type []) [.number n])) []])) := by
  unfold arrayColumn? at h
  split at h
  · cases h
    rfl
  · cases h

theorem read_bounded : Grammar.statementOfChunk .postgresql bounded.toList boundedLayout.tokens =
    .ok (some (.createTable boundedName [boundedEntry.item])) :=
  eq_of_arrayColumn? (by decide +kernel)

theorem isOf_bounded : boundedLayout.IsOf boundedLayout.tokens boundedName [boundedEntry.item] where
  tokens_eq := rfl
  creates := by decide
  kind := by decide
  plain := by decide
  name_eq := rfl
  named := rfl
  opens := by decide
  closes := by decide
  commas := nofun
  entries := by
    have hentry : boundedEntry.IsValid := ⟨by decide, by decide, rfl, fun _ => by decide⟩
    exact List.forall_mem_singleton.mpr hentry
  items_eq := rfl

def boundedTable : Table :=
  { id := .fresh 1, name := "t", columns := [{ id := .fresh 0, name := "a", type := .varchar }] }

theorem ofScript_bounded : Reading.ofScript 0 bounded .postgresql = .ok (.schema { tables := [boundedTable] }, 2) := by
  have hword : SourceType.ofColumn? (SourceType.ofTable (SourceType.all boundedTokens) "t") "a" = some "INT 3" := by
    decide
  have hplain : Describe.splitParameters ((TypeExpr.array (.named "INT" []) [.number "3"]).render .postgresql).toList =
      none := by
    simp only [TypeExpr.render, Expr.renders, Expr.render]
    decide
  have hitems : [boundedEntry.item].mapM (Describe.tableItem .postgresql
      (SourceType.ofTable (SourceType.all boundedTokens) "t")) = .ok [Describe.columnOf .postgresql "a"
        (.record [("dataType", .text (Text.collapse (Text.upper "INT 3")))]) []] := by
    simp only [List.mapM_cons, List.mapM_nil, ColumnEntry.item, boundedEntry, Describe.tableItem, Expr.plainName, hword,
      Describe.column_eq (by decide : ("INT 3" : String) ≠ "") hplain]
    rfl
  exact Reading.ofScript_of_statement (statements_of_chunk tokens?_bounded rfl read_bounded) rfl
    (Describe.statement_eq (by decide) hitems) rfl (by decide)

end Script

/-! ### Types of their own -/

end SchemaDesk
