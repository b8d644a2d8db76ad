import SchemaDesk.Proofs.Ddl.TableDescription
import SchemaDesk.Proofs.Extraction.Origin
import SchemaDesk.Proofs.Reading.Schema
import SchemaDesk.Proofs.Sql.Layout
/-!
What becomes of the description of a column, whatever its type and its rules: a definition with the name of the column,
the type in the words that are found for it, and the mark of a column that counts up.
-/

namespace SchemaDesk.Sql.Describe

open Extraction (definition? IsDefinitionOf)

variable {d : Dialect} {name : String} {type : Option TypeExpr} {constraints : List ColumnConstraint}

/-! ### Rules -/

theorem constraintTag_tagged {type : String} (hne : type ≠ "") (fields : List (String × Value)) :
    ColumnDefinition.constraintTag (tagged type fields) = Text.upper type := by
  have htype : (tagged type fields).get "type" = .text type := rfl
  have htext : ∀ v, (Value.text type).orElse v = .text type := fun v => by
    rw [Value.orElse, if_pos (by simp [Value.truthy, hne])]
  rw [tagged] at htype ⊢
  simp only [ColumnDefinition.constraintTag, htype, htext]
  rfl

/-- The constraint is described as one of a column that counts up. -/
def saysCounts (e : Value) : Bool := (ColumnDefinition.constraintMarks e).autoIncrement

theorem saysCounts_tagged {type : String} (hne : type ≠ "") (fields : List (String × Value)) :
    saysCounts (tagged type fields) =
      (Text.hasWord (Text.upper type) "AUTO_INCREMENT" || Text.hasWord (Text.upper type) "AUTOINCREMENT") := by
  have hkey (b : Bool) : (if b then ColumnMarks.key else {}).autoIncrement = false := by cases b <;> rfl
  rw [saysCounts, ColumnDefinition.constraintMarks, constraintTag_tagged hne]
  simp only [ColumnMarks.join, hkey, Bool.false_or]

theorem saysCounts_known :
    (∀ type ∈ ["primary key", "unique", "check", "references"],
      (Text.hasWord (Text.upper type) "AUTO_INCREMENT" || Text.hasWord (Text.upper type) "AUTOINCREMENT") = false) ∧
    (Text.hasWord (Text.upper "auto_increment") "AUTO_INCREMENT" ||
      Text.hasWord (Text.upper "auto_increment") "AUTOINCREMENT") = true := by
  decide +kernel

theorem any_saysCounts_add (p : ColumnParts) (k : ColumnConstraint) :
    (p.add d k).constraints.any saysCounts = (p.constraints.any saysCounts || k.counts) := by
  have hsame {q : ColumnParts} (hq : q.constraints = p.constraints) :
      q.constraints.any saysCounts = (p.constraints.any saysCounts || false) := by rw [hq, Bool.or_false]
  have htag {type : String} (fields : List (String × Value)) (hne : type ≠ "") :
      (p.addConstraint (tagged type fields)).constraints.any saysCounts = (p.constraints.any saysCounts ||
        (Text.hasWord (Text.upper type) "AUTO_INCREMENT" || Text.hasWord (Text.upper type) "AUTOINCREMENT")) := by
    rw [ColumnParts.addConstraint, List.any_append, List.any_cons, List.any_nil, Bool.or_false, saysCounts_tagged hne]
  have hother {type : String} (hmem : type ∈ ["primary key", "unique", "check", "references"])
      (fields : List (String × Value)) : (p.addConstraint (tagged type fields)).constraints.any saysCounts =
        (p.constraints.any saysCounts || false) := by
    rw [htag fields (by rintro rfl; revert hmem; decide), saysCounts_known.1 type hmem]
  obtain ⟨i, rule, comments⟩ := k
  -- rules of all other kinds become options, which are no constraints
  cases rule with
  | none => exact hsame (by simp only [ColumnParts.add]; split <;> rfl)
  | some r =>
    cases r with
    | notNull | null | default => exact hsame rfl
    | primaryKey | unique | check | references => exact hother (by simp) _
    | autoIncrement => exact (htag [] (by decide)).trans (by rw [saysCounts_known.2]; rfl)
    | keyOf | index | foreignKey | other => exact hsame (by simp only [ColumnParts.add]; split <;> rfl)

theorem any_saysCounts_foldl (ks : List ColumnConstraint) (p : ColumnParts) :
    (ks.foldl (ColumnParts.add d) p).constraints.any saysCounts =
      (p.constraints.any saysCounts || ks.any (·.counts)) := by
  induction ks generalizing p with
  | nil => simp
  | cons k ks ih => rw [List.foldl_cons, ih, any_saysCounts_add, List.any_cons, Bool.or_assoc]

/-! ### Fields -/

/-- The description of a column with its type already described. -/
def columnOf (d : Dialect) (name : String) (definition : Value) (constraints : List ColumnConstraint) : Value :=
  .record ([("resource", .text "column"), ("column", columnRef name), ("definition", definition)] ++
    (constraints.foldl (ColumnParts.add d) {}).toFields)

theorem exists_of_column {written : Option String} {v : Value} (h : column d name type constraints written = .ok v) :
    ∃ definition, dataType d type written = .ok definition ∧ v = columnOf d name definition constraints := by
  rw [column] at h
  cases hdefinition : dataType d type written with
  | error e => rw [hdefinition] at h; cases h
  | ok definition =>
    rw [hdefinition] at h
    exact ⟨definition, rfl, (Except.ok.inj h).symm⟩

theorem get_columnOf (definition : Value) {field : String} (h : field ∉ ["resource", "column", "definition"]) :
    (columnOf d name definition constraints).get field =
      ((constraints.foldl (ColumnParts.add d) {}).toFields.lookup field).getD .null := by
  simp only [List.mem_cons, List.not_mem_nil, or_false, not_or] at h
  show ((_ :: _ :: _ :: (constraints.foldl (ColumnParts.add d) {}).toFields : List (String × Value)).lookup field).getD
    .null = _
  rw [Ddl.lookup_cons, Ddl.lookup_cons, Ddl.lookup_cons, if_neg h.1, if_neg h.2.1, if_neg h.2.2]

theorem get_columnOf_other (definition : Value) {field : String} (h : field ∉
    ["resource", "column", "definition", "nullable", "default_val", "constraint", "options"]) :
    (columnOf d name definition constraints).get field = .null := by
  simp only [List.mem_cons, List.not_mem_nil, or_false, not_or] at h
  rw [get_columnOf definition (by simp [h]),
    lookup_toFields_eq_none _ (name_mem_of_mem_fields constraints {} nofun) (by simp [h])]
  rfl

theorem asList_constraint (definition : Value) :
    ((columnOf d name definition constraints).get "constraint").asList =
      (constraints.foldl (ColumnParts.add d) {}).constraints := by
  have hfields : (constraints.foldl (ColumnParts.add d) {}).fields.lookup "constraint" = none := by
    refine List.lookup_eq_none_iff.mpr fun f hf => bne_iff_ne.mpr ?_
    have hmem := name_mem_of_mem_fields constraints {} nofun f hf
    rintro hname
    rw [← hname] at hmem
    revert hmem
    decide
  have hoptions (items : List Value) : (ColumnParts.listField "options" items).lookup "constraint" = none := by
    rw [ColumnParts.listField]
    split <;> rfl
  rw [get_columnOf definition (by decide), ColumnParts.toFields, List.lookup_append, List.lookup_append, hfields,
    hoptions, Option.none_or, Option.or_none, ColumnParts.listField]
  cases (constraints.foldl (ColumnParts.add d) {}).constraints <;> rfl

/-! ### Types -/

/-- The description of a type by its words. -/
theorem exists_of_dataType {t : TypeExpr} {word : String} (hne : word ≠ "") {v : Value}
    (h : dataType d (some t) (some word) = .ok v) :
    ∃ ns, v = .record (("dataType", .text (Text.collapse (Text.upper word))) :: lengthField ns) := by
  have hfilter : (some word).filter (· != "") = some word := by simp [hne]
  have hparts : ∀ parameters rest, (do
      let ns ← numbers parameters
      let name := ((some word).filter (· != "")).getD rest
      return Value.record (("dataType", .text (Text.collapse (Text.upper name))) :: lengthField ns)) = .ok v →
      ∃ ns, v = .record (("dataType", .text (Text.collapse (Text.upper word))) :: lengthField ns) := by
    intro parameters rest h
    cases hns : numbers parameters with
    | error e => rw [hns] at h; cases h
    | ok ns =>
      rw [hns, hfilter] at h
      exact ⟨ns, (Except.ok.inj h).symm⟩
  exact hparts _ _ h

theorem get_auto_of_dataType {written : Option String} {v : Value} (h : dataType d type written = .ok v) :
    v.get "auto_increment" = .null ∧ v.get "constraint" = .null := by
  rcases dataType_cases h with rfl | ⟨word, ns, rfl, -⟩
  · exact ⟨rfl, rfl⟩
  · match ns with
    | [] | [_] | _ :: _ :: _ => exact ⟨rfl, rfl⟩

/-! ### Definitions -/

theorem autoIncrement_marksOf {written : Option String} {definition : Value}
    (h : dataType d type written = .ok definition) (typeName : String) :
    (ColumnDefinition.marksOf (columnOf d name definition constraints) typeName).autoIncrement =
      (Text.hasWord typeName "SERIAL" || constraints.any (·.counts)) := by
  obtain ⟨hauto, hconstraint⟩ := get_auto_of_dataType h
  have hdefinition : (columnOf d name definition constraints).get "definition" = definition := rfl
  have hset : ColumnDefinition.isSet (columnOf d name definition constraints) "auto_increment" = false := by
    rw [ColumnDefinition.isSet, get_columnOf_other definition (by decide), hdefinition, hauto]
    rfl
  have hlist : ColumnDefinition.constraints (columnOf d name definition constraints) =
      (constraints.foldl (ColumnParts.add d) {}).constraints := by
    rw [ColumnDefinition.constraints, ColumnDefinition.field, hdefinition, hconstraint, Ddl.Line.firstOf_null,
      asList_constraint]
  have hunique : (ColumnDefinition.uniqueMarks (columnOf d name definition constraints)).autoIncrement = false := by
    rw [ColumnDefinition.uniqueMarks]
    split <;> rfl
  have hnullable : (ColumnDefinition.nullableMarks (columnOf d name definition constraints)).autoIncrement = false :=
    rfl
  have hkey : (if ColumnDefinition.isSet (columnOf d name definition constraints) "primary_key" then
      ColumnMarks.key else {}).autoIncrement = false := by split <;> rfl
  have hcounts := any_saysCounts_foldl (d := d) constraints {}
  rw [List.any_nil, Bool.false_or] at hcounts
  rw [ColumnDefinition.marksOf, ColumnMarks.joinAll_eq_any (·.autoIncrement) rfl fun _ _ => rfl, List.any_append,
    List.any_map, hlist]
  have hfold : (constraints.foldl (ColumnParts.add d) {}).constraints.any
      ((·.autoIncrement) ∘ ColumnDefinition.constraintMarks) = constraints.any (·.counts) := hcounts
  rw [hfold]
  simp only [List.any_cons, List.any_nil, hnullable, hunique, hkey, hset, Bool.or_false]

variable {v : Value} {e : ColumnDefinition}

/-- The definition has the name of the column. -/
theorem name_eq_of_column {written : Option String} (h : column d name type constraints written = .ok v)
    (he : definition? v = some e) : e.name = name := by
  obtain ⟨definition, -, rfl⟩ := exists_of_column h
  have hname : (columnRef name).nameText? = some e.name := (Extraction.isDefinitionOf_of_definition? he).name_eq
  by_cases hempty : name = ""
  · rw [hempty] at hname
    cases hname
  · rw [Ddl.Line.nameText?_columnRef hempty] at hname
    exact (Option.some.inj hname).symm

theorem definition?_eq_none (h : ColumnDefinition.writtenType v = "") : definition? v = none := by
  have hnormal : ColumnType.normalSpelling "" = "" := by decide
  have hvalue : ColumnDefinition.ofValue? v = .ok none := by
    rw [ColumnDefinition.ofValue?, h, hnormal]
    split
    · rfl
    · split <;> rfl
  rw [definition?, hvalue]

/-- Without a type there is no definition. -/
theorem type_isSome_of_column {written : Option String} (h : column d name type constraints written = .ok v)
    (he : definition? v = some e) : type.isSome = true := by
  cases type with
  | some t => rfl
  | none =>
    obtain ⟨definition, hdefinition, rfl⟩ := exists_of_column h
    obtain rfl := Except.ok.inj hdefinition
    have hwritten : ColumnDefinition.writtenType (columnOf d name (.record []) constraints) = "" := by
      have hget : (columnOf d name (.record []) constraints).get "definition" = .record [] := rfl
      rw [ColumnDefinition.writtenType, hget, get_columnOf_other _ (by decide), get_columnOf_other _ (by decide)]
      rfl
    rw [definition?_eq_none hwritten] at he
    cases he

/-- The type is that of the words that are found for it; an integer column that counts up is a serial one. -/
theorem columnType_of_column {word : String} (hne : word ≠ "") (hplain : ColumnType.IsPlain word)
    (h : column d name type constraints (some word) = .ok v) (he : definition? v = some e) :
    Extraction.columnType e =
      if constraints.any (·.counts) then (ColumnType.ofSpelling word).serialOf?.getD (ColumnType.ofSpelling word)
      else ColumnType.ofSpelling word := by
  obtain ⟨t, rfl⟩ := Option.isSome_iff_exists.mp (type_isSome_of_column h he)
  obtain ⟨definition, hdefinition, rfl⟩ := exists_of_column h
  obtain ⟨ns, hns⟩ := exists_of_dataType hne hdefinition
  have hof := Extraction.isDefinitionOf_of_definition? he
  have hwritten : ColumnDefinition.writtenType (columnOf d name definition constraints) =
      Text.collapse (Text.upper word) := by
    rw [hns]
    rfl
  have hname : e.typeName = Text.collapse (Text.upper word) := by
    rw [hof.typeName_eq, hwritten, ColumnType.normalSpelling_caseless hplain]
  have hmark : e.marks.autoIncrement = (Text.hasWord e.typeName "SERIAL" || constraints.any (·.counts)) := by
    rw [hof.marks_eq, autoIncrement_marksOf hdefinition]
  have htype : ColumnType.ofSpelling e.typeName = ColumnType.ofSpelling word := by
    rw [hname, ColumnType.ofSpelling_caseless hplain]
  rw [Extraction.columnType, htype, hmark]
  cases hcounts : constraints.any (·.counts) with
  | true => simp
  | false =>
    simp only [Bool.or_false, Bool.false_eq_true, if_false, ite_eq_right_iff]
    intro hserial
    have hnone : (ColumnType.ofSpelling word).serialOf? = none := by
      rw [← htype, ColumnType.ofSpelling, hname, ColumnType.normalSpelling_caseless hplain]
      exact ColumnType.serialOf?_eq_none (hname ▸ hserial)
    rw [hnone, Option.getD_none]

/-! ### Types without parameters -/

/-- A type without parameters is described by the word for it. -/
theorem column_eq {word : String} {t : TypeExpr} (hword : word ≠ "")
    (hplain : splitParameters (t.render d).toList = none) :
    column d name (some t) constraints (some word) =
      .ok (columnOf d name (.record [("dataType", .text (Text.collapse (Text.upper word)))]) constraints) := by
  have hchosen : (some word).filter (· != "") = some word := by simp [hword]
  simp only [column, dataType, hplain, hchosen, Option.getD_some]
  rfl

theorem statement_eq {types : SourceType.Types} {table : TableName} {items : List TableItem} {vs : List Value}
    (hname : table.name.text ≠ "")
    (h : items.mapM (tableItem d (SourceType.ofTable types table.name.text)) = .ok vs) :
    statement d types (.createTable table items) = .ok (tagged "create"
      [("keyword", .text "table"), ("table", tableRef table), ("create_definitions", .list vs)]) := by
  have hne : (table.name.text == "") = false := by simpa using hname
  simp only [statement, hne, Bool.false_eq_true, if_false, h]
  rfl

end SchemaDesk.Sql.Describe
