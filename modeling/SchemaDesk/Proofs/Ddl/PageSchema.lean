import SchemaDesk.Proofs.Ddl.ScriptDescription
import SchemaDesk.Proofs.Extraction.WellFormed
import SchemaDesk.Proofs.Schema.Named
/-!
The schema of described definitions: a table for each definition of one, and a relation for each foreign
key whose ends were not connected before.
-/

namespace SchemaDesk.Ddl

open Sql Extraction

variable {d : Dialect} {ts : List CreateTable} {ks : List AddKey} {rest : List Value}

/-- The source that the statement of a table gives, identifiers left out. -/
def CreateTable.source (x : CreateTable) : TableSource := ⟨x.table, x.constraints, []⟩

/-- The descriptions of tables and of the foreign keys behind them. -/
def descriptions (d : Dialect) (ts : List CreateTable) (ks : List AddKey) (rest : List Value) : List Value :=
  ts.map (CreateTable.description d) ++ (ks.map AddKey.description ++ rest)

theorem createdName?_remark (hrest : IsRemarkDescription rest) : ∀ v ∈ rest, createdName? v = none := by
  rcases hrest with rfl | rfl
  · exact nofun
  · intro v hv
    obtain rfl := List.mem_singleton.mp hv
    rfl

theorem creations_descriptions (hts : ∀ x ∈ ts, x.IsDescribable d) (hrest : IsRemarkDescription rest) :
    creations (descriptions d ts ks rest) = ts.map fun x => (x.name, x.description d) := by
  have htables : creations (ts.map (CreateTable.description d)) = ts.map fun x => (x.name, x.description d) := by
    rw [creations, List.filterMap_map, ← List.filterMap_eq_map]
    exact List.filterMap_congr fun x hx => by
      simp [CreateTable.createdName?_description (hts x hx).1]
  have hothers : creations (ks.map AddKey.description ++ rest) = [] := by
    refine List.filterMap_eq_nil_iff.mpr fun v hv => ?_
    rcases List.mem_append.mp hv with hv | hv
    · obtain ⟨k, -, rfl⟩ := List.mem_map.mp hv
      rfl
    · rw [createdName?_remark hrest v hv]
      rfl
  rw [descriptions, creations, List.filterMap_append]
  rw [creations] at htables hothers
  rw [htables, hothers, List.append_nil]

/-- Each table is extracted as its statement says. -/
theorem sourcesFrom_descriptions (hts : ∀ x ∈ ts, x.IsDescribable d) (hcolumns : ∀ x ∈ ts, x.definitions ≠ [])
    (hnames : (ts.map fun x => Text.lower x.name).Nodup) (hrest : IsRemarkDescription rest) (serial : Nat) :
    ∃ ss next, sourcesFrom serial [] (descriptions d ts ks rest) = .ok (ss, next) ∧
      ss.map withoutIds = ts.map CreateTable.source := by
  have hcreations : creations (descriptions d ts ks rest) = ts.map fun x => (x.name, x.description d) :=
    creations_descriptions hts hrest
  have hcontent : ∀ x ∈ ts, content (x.name, x.description d) = .ok (some x.source) := fun x hx =>
    CreateTable.content_description (hts x hx) (hcolumns x hx)
  have hgiven : ∀ y ∈ ts.map fun x => (x.name, x.description d), ∃ found, content y = .ok found :=
    List.forall_mem_map.mpr fun x hx => ⟨_, hcontent x hx⟩
  obtain ⟨ss, next, hmade⟩ := exists_made hgiven serial
  have hnodup : (([] : List TableSource).map (fun s => Text.lower s.table.name) ++
      (createdNames (descriptions d ts ks rest)).map Text.lower).Nodup := by
    rw [← map_fst_creations, hcreations, List.map_map, List.map_map]
    exact hnames
  refine ⟨ss, next, (sourcesFrom_eq_ok_iff hnodup).mpr ⟨ss, hcreations ▸ hmade, rfl⟩, ?_⟩
  rw [hmade.contents.2, List.filterMap_map, ← List.filterMap_eq_map]
  exact List.filterMap_congr fun x hx => by simp [given?, hcontent x hx]

/-! ### Foreign keys -/

/-- The relation that the statement asks for. An action that is not given is no action. -/
def AddKey.relation (k : AddKey) : NamedRelation :=
  { table := k.table
    column := k.column
    target := k.target
    targetColumn := k.targetColumn
    onDelete := some (k.onDelete.getD .noAction).name
    onUpdate := some (k.onUpdate.getD .noAction).name }

theorem actionName_wording (a : Option ReferentialAction) :
    actionName (AddKey.wording a) = some (a.getD .noAction).name := by
  rcases a with - | - | - | - | - <;> decide

/-- Both ends of the foreign key are there. -/
def AddKey.HasEnds (tables : List Table) (k : AddKey) : Prop :=
  HasColumn tables k.table k.column ∧ HasColumn tables k.target k.targetColumn

/-- The tables of the sources differ in their identifiers, and so do the columns of each. -/
theorem endpoint_find? {ss : List TableSource} (hids : (ss.flatMap sourceIds).Nodup) {s : TableSource}
    (hs : s ∈ ss) {c : Column} (hc : c ∈ s.table.columns) :
    (⟨s.table.id, c.id⟩ : Endpoint).find? (ss.map (·.table)) = some (s.table, c) := by
  obtain ⟨htables, hcolumns, -⟩ := List.nodup_append.mp ((ids_perm ss).nodup_iff.mp hids)
  have ht : s.table ∈ ss.map (·.table) := List.mem_map_of_mem hs
  exact Endpoint.find?_eq_some_iff.mpr ⟨find?_eq_some_of_nodup htables ht,
    find?_eq_some_of_nodup ((List.nodup_flatMap.mp hcolumns).1 s.table ht) hc⟩

section Keys

variable {ss : List TableSource} (hnames : DistinctlyNamed (ss.map (·.table)))

include hnames

theorem findSource?_of_mem {s : TableSource} (hs : s ∈ ss) : findSource? ss s.table.name = some s := by
  have hnodup : (ss.map fun s => Text.lower s.table.name).Nodup := by
    simpa [List.map_map, Function.comp_def] using hnames.tableNames
  exact find?_eq_some_of_nodup (f := fun s : TableSource => Text.lower s.table.name) hnodup hs

theorem findColumn?_of_mem {s : TableSource} (hs : s ∈ ss) {c : Column} (hc : c ∈ s.table.columns) :
    s.table.findColumn? c.name = some c :=
  find?_eq_some_of_nodup (f := fun c : Column => Text.lower c.name)
    (hnames.columnNames s.table (List.mem_map_of_mem hs)) hc

theorem exists_of_hasColumn {table column : String} (h : HasColumn (ss.map (·.table)) table column) :
    ∃ s ∈ ss, ∃ c ∈ s.table.columns, findSource? ss table = some s ∧ s.table.findColumn? column = some c ∧
      s.table.name = table ∧ c.name = column := by
  obtain ⟨t, ht, rfl, c, hc, rfl⟩ := h
  obtain ⟨s, hs, rfl⟩ := List.mem_map.mp ht
  exact ⟨s, hs, c, hc, findSource?_of_mem hnames hs, findColumn?_of_mem hnames hs hc, rfl, rfl⟩

theorem relation?_foreignKey (hids : (ss.flatMap sourceIds).Nodup) {k : AddKey}
    (hk : k.HasEnds (ss.map (·.table))) (serial : Nat) :
    ∃ s r, findSource? ss k.table = some s ∧ relation? ss serial s k.foreignKey = some r ∧
      r.named? (ss.map (·.table)) = some k.relation := by
  obtain ⟨s, hs, c, hc, hfind, hcolumn, hname, hcname⟩ := exists_of_hasColumn hnames hk.1
  obtain ⟨t, ht, b, hb, htfind, htcolumn, htname, hbname⟩ := exists_of_hasColumn hnames hk.2
  refine ⟨s, _, hfind, relation?_eq_some_iff.mpr ⟨c, t, b, hcolumn, htfind, htcolumn, rfl⟩, ?_⟩
  rw [Relation.named?_eq_some (endpoint_find? hids hs hc) (endpoint_find? hids ht hb)]
  simp only [hname, hcname, htname, hbname, AddKey.foreignKey, actionName_wording]
  rfl

/-- Foreign keys whose ends exist become relations in their order, except for those whose ends are
connected already. -/
theorem relations_foreignKeys (hids : (ss.flatMap sourceIds).Nodup) {keys : List (TableSource × ForeignKey)}
    (hkeys : List.Forall₂ (fun key k => findSource? ss k.table = some key.1 ∧ key.2 = k.foreignKey) keys ks)
    (hends : ∀ k ∈ ks, k.HasEnds (ss.map (·.table))) (serial : Nat) {found : List Relation}
    {kept : List NamedRelation} (hfound : found.map (Relation.named? (ss.map (·.table))) = kept.map some) :
    (relations ss serial found keys).1.map (Relation.named? (ss.map (·.table))) =
      ((ks.map AddKey.relation).foldl (fun kept n => n.addTo kept) kept).map some := by
  induction hkeys generalizing serial found kept with
  | nil => exact hfound
  | @cons key k keys ks hkey _ ih =>
    obtain ⟨s, r, hs, hr, hnamed⟩ := relation?_foreignKey hnames hids (hends k (by simp)) serial
    obtain ⟨s', fk⟩ := key
    obtain ⟨hs', rfl⟩ := hkey
    obtain rfl : s' = s := Option.some.inj (hs'.symm.trans hs)
    rw [relations, hr]
    exact ih (fun k hk => hends k (by simp [hk])) (serial + 1) (hnames.map_addTo hfound hnamed)

end Keys

theorem mem_source_plain {ss : List TableSource} (hss : ss.map withoutIds = ts.map CreateTable.source)
    {s : TableSource} (hs : s ∈ ss) : ∃ x : CreateTable, s.constraints = x.constraints ∧ s.inline = [] := by
  obtain ⟨x, -, hx⟩ := List.mem_map.mp (hss ▸ List.mem_map_of_mem hs : withoutIds s ∈ ts.map CreateTable.source)
  exact ⟨x, congrArg TableSource.constraints hx.symm, congrArg TableSource.inline hx.symm⟩

/-- The statement of a table has no foreign keys. -/
theorem ownKeys_eq_nil {ss : List TableSource} (hss : ss.map withoutIds = ts.map CreateTable.source)
    {s : TableSource} (hs : s ∈ ss) : ownKeys s = [] := by
  obtain ⟨x, hconstraints, hinline⟩ := mem_source_plain hss hs
  rw [ownKeys, hconstraints, hinline, List.map_nil, List.append_nil]
  refine List.filterMap_eq_nil_iff.mpr fun c hc => ?_
  obtain ⟨y, -, hy⟩ := List.mem_filterMap.mp hc
  cases y with
  | column name type clauses => cases hy
  | key first more =>
    obtain rfl := Option.some.inj hy
    rfl

theorem alteredKeys_remark (hrest : IsRemarkDescription rest) (ss : List TableSource) :
    rest.flatMap (alteredKeys ss) = [] := by
  rcases hrest with rfl | rfl <;> rfl

theorem foreignKeys_descriptions (hks : ∀ k ∈ ks, k.IsValid d) {ss : List TableSource}
    (hss : ss.map withoutIds = ts.map CreateTable.source) (hrest : IsRemarkDescription rest)
    (hends : ∀ k ∈ ks, ∃ s, findSource? ss k.table = some s) :
    List.Forall₂ (fun key k => findSource? ss k.table = some key.1 ∧ key.2 = k.foreignKey)
      (foreignKeys ss (descriptions d ts ks rest)) ks := by
  have hown : (ss.flatMap fun s => (ownKeys s).map fun k => (s, k)) = [] :=
    List.flatMap_eq_nil_iff.mpr fun s hs => by rw [ownKeys_eq_nil hss hs, List.map_nil]
  have htables : (ts.map (CreateTable.description d)).flatMap (alteredKeys ss) = [] := by
    refine List.flatMap_eq_nil_iff.mpr fun v hv => ?_
    obtain ⟨x, -, rfl⟩ := List.mem_map.mp hv
    exact x.alteredKeys_description ss
  rw [foreignKeys, hown, descriptions, List.nil_append, List.flatMap_append, List.flatMap_append, htables,
    alteredKeys_remark hrest, List.nil_append, List.append_nil]
  induction ks with
  | nil => exact .nil
  | cons k ks ih =>
    obtain ⟨s, hs⟩ := hends k (by simp)
    rw [List.map_cons, List.flatMap_cons, AddKey.alteredKeys_description (hks k (by simp)) hs]
    exact .cons ⟨hs, rfl⟩ (ih (fun x hx => hks x (by simp [hx])) fun x hx => hends x (by simp [hx]))

/-- The tables that the descriptions give, whatever there is of foreign keys. -/
theorem tables_ofStatements (hts : ∀ x ∈ ts, x.IsDescribable d) (hcolumns : ∀ x ∈ ts, x.definitions ≠ [])
    (hnames : (ts.map fun x => Text.lower x.name).Nodup) (hrest : IsRemarkDescription rest) (serial : Nat) :
    ∃ s next, Schema.ofStatements serial (descriptions d ts ks rest) = .ok (s, next) ∧
      s.tables.map (Table.mapIds fun _ => .fresh 0) = ts.map CreateTable.table := by
  obtain ⟨ss, middle, hsources, hss⟩ := @sourcesFrom_descriptions d ts ks rest hts hcolumns hnames hrest serial
  have htables := congrArg (List.map TableSource.table) hss
  refine ⟨_, _, by rw [Schema.ofStatements, hsources]; rfl, ?_⟩
  simpa [List.map_map, Function.comp_def, withoutIds, TableSource.mapIds, CreateTable.source] using htables

/-- The schema that the descriptions give. -/
theorem ofStatements_descriptions (hts : ∀ x ∈ ts, x.IsDescribable d) (hks : ∀ k ∈ ks, k.IsValid d)
    (hcolumns : ∀ x ∈ ts, x.definitions ≠ []) (hnames : DistinctlyNamed (ts.map CreateTable.table))
    (hends : ∀ k ∈ ks, k.HasEnds (ts.map CreateTable.table)) (hrest : IsRemarkDescription rest) (serial : Nat) :
    ∃ s next, Schema.ofStatements serial (descriptions d ts ks rest) = .ok (s, next) ∧
      s.tables.map (Table.mapIds fun _ => .fresh 0) = ts.map CreateTable.table ∧
      (s.tableIds ++ s.columnIds).Nodup ∧
      s.relations.map (Relation.named? s.tables) =
        (NamedRelation.firstOnes (ks.map AddKey.relation)).map some := by
  obtain ⟨ss, middle, hsources, hss⟩ := @sourcesFrom_descriptions d ts ks rest hts hcolumns
    (by simpa [List.map_map, Function.comp_def, CreateTable.table] using hnames.tableNames) hrest serial
  have htables : (ss.map (·.table)).map (Table.mapIds fun _ => .fresh 0) = ts.map CreateTable.table := by
    have htable := congrArg (List.map TableSource.table) hss
    simpa [List.map_map, Function.comp_def, withoutIds, TableSource.mapIds, CreateTable.source] using htable
  have hfound : DistinctlyNamed (ss.map (·.table)) := (distinctlyNamed_mapIds _).mp (htables ▸ hnames)
  have hhas : ∀ k ∈ ks, k.HasEnds (ss.map (·.table)) := fun k hk =>
    ⟨.of_mapIds (htables ▸ (hends k hk).1), .of_mapIds (htables ▸ (hends k hk).2)⟩
  have hids := nodup_sourceIds hsources
  have hkeys := foreignKeys_descriptions hks hss hrest fun k hk => by
    obtain ⟨s, -, c, -, hs, -⟩ := exists_of_hasColumn hfound (hhas k hk).1
    exact ⟨s, hs⟩
  have hnone : ([] : List Relation).map (Relation.named? (ss.map (·.table))) = ([] : List NamedRelation).map some := rfl
  have hrelations := relations_foreignKeys hfound hids hkeys hhas middle hnone
  refine ⟨_, _, by rw [Schema.ofStatements, hsources]; rfl, htables, ?_, hrelations⟩
  exact (ids_perm ss).nodup_iff.mp hids

/-! ### Pages -/

namespace CreateTable

/-- The words for types do not change the names of columns. -/
theorem map_name_typed (x : CreateTable) : x.typed.definitions.map (·.name) = x.definitions.map (·.name) := by
  rw [definitions, definitions, lines_typed, List.filterMap_map, List.map_filterMap, List.map_filterMap]
  refine List.filterMap_congr fun y _ => ?_
  cases y <;> rfl

theorem definitions_typed_ne_nil {x : CreateTable} (h : x.definitions ≠ []) : x.typed.definitions ≠ [] := by
  intro hnil
  have hnames := x.map_name_typed
  rw [hnil, List.map_nil, eq_comm, List.map_eq_nil_iff] at hnames
  exact h hnames

/-- Constraints do not change the names of columns. -/
theorem map_name_table (x : CreateTable) : x.table.columns.map (·.name) = x.definitions.map (·.name) := by
  have hmarks := applyConstraints_marks (x.definitions.map (Extraction.column 0)) x.constraints
  have hnames : (x.definitions.map (Extraction.column 0)).map (·.name) = x.table.columns.map (·.name) := by
    rw [← List.forall₂_eq_eq_eq, List.forall₂_map_left_iff, List.forall₂_map_right_iff]
    exact hmarks.imp fun _ _ h => h.name_eq.symm
  rw [← hnames, List.map_map]
  rfl

theorem map_fst_sourceTypes (x : CreateTable) :
    x.sourceTypes.2.map Prod.fst = x.table.columns.map fun c => Text.lower c.name := by
  have hlower : (x.table.columns.map fun c => Text.lower c.name) =
      (x.table.columns.map (·.name)).map Text.lower := by
    rw [List.map_map]
    rfl
  rw [hlower, map_name_table, sourceTypes, definitions, List.map_filterMap, List.map_map, List.map_filterMap]
  refine List.filterMap_congr fun y _ => ?_
  cases y <;> rfl

end CreateTable

namespace Page

variable {p : Page}

/-- The page defines these tables and these foreign keys. -/
def Defines (p : Page) (ts : List CreateTable) (ks : List AddKey) : Prop :=
  p.definitions = ts.map .table ++ ks.map .key

theorem hasDistinctTables_of_defines (hp : p.Defines ts ks) (hnames : (ts.map fun x => Text.lower x.name).Nodup) :
    p.HasDistinctTables := by
  have htypes : p.definitions.filterMap Definition.sourceTypes? = ts.map CreateTable.sourceTypes := by
    rw [hp, List.filterMap_append, List.filterMap_map, List.filterMap_map, ← List.filterMap_eq_map]
    have hkeys : ks.filterMap (Definition.sourceTypes? ∘ Definition.key) = [] :=
      List.filterMap_eq_nil_iff.mpr fun _ _ => rfl
    rw [hkeys, List.append_nil]
    rfl
  rw [HasDistinctTables, htypes, List.map_map]
  exact hnames

theorem map_typed_eq_self (hnames : DistinctlyNamed (ts.map CreateTable.table)) : ts.map CreateTable.typed = ts := by
  refine (List.map_congr_left fun x hx => CreateTable.typed_eq_self ?_).trans (List.map_id _)
  rw [CreateTable.HasDistinctColumns, x.map_fst_sourceTypes]
  exact hnames.columnNames _ (List.mem_map_of_mem hx)

theorem map_description_of_defines (hp : p.Defines ts ks) :
    p.definitions.map (fun x => x.typed.description d) ++ rest = descriptions d (ts.map CreateTable.typed) ks rest := by
  rw [hp, List.map_append, List.map_map, List.map_map, descriptions, List.map_map, List.append_assoc]
  rfl

/-- A page that is read as a whole is described by its definitions. -/
theorem read_descriptions (hvalid : p.IsValid d) (hp : p.Defines ts ks) (hread : ∀ x ∈ ts, x.IsRead d)
    (hnames : (ts.map fun x => Text.lower x.name).Nodup) :
    ∃ rest, IsRemarkDescription rest ∧
      Script.read d (String.ofList p.written) = .ok (descriptions d (ts.map CreateTable.typed) ks rest) := by
  have hreads : ∀ x ∈ p.definitions, x.IsRead d := by
    rw [hp, List.forall_mem_append, List.forall_mem_map, List.forall_mem_map]
    exact ⟨hread, fun _ _ => trivial⟩
  obtain ⟨rest, hrest, hscript⟩ := read_eq hvalid hreads (hasDistinctTables_of_defines hp hnames)
  rw [map_description_of_defines hp] at hscript
  exact ⟨rest, hrest, hscript⟩

theorem isValid_of_defines (hvalid : p.IsValid d) (hp : p.Defines ts ks) :
    (∀ x ∈ ts, x.IsValid d) ∧ ∀ k ∈ ks, k.IsValid d := by
  have hdefinitions := hvalid.definitions
  rw [hp, List.forall_mem_append, List.forall_mem_map, List.forall_mem_map] at hdefinitions
  exact hdefinitions

/-- A page that is read as a whole gives a table for each one that it defines, and its columns in their order. -/
theorem tables_ofScript (hvalid : p.IsValid d) (hp : p.Defines ts ks) (hread : ∀ x ∈ ts, x.IsRead d)
    (hcolumns : ∀ x ∈ ts, x.definitions ≠ []) (hnames : (ts.map fun x => Text.lower x.name).Nodup)
    (hblank : Text.strip (String.ofList p.written) ≠ "") (serial : Nat) :
    ∃ s next, Reading.ofScript serial (String.ofList p.written) d = .ok (.schema s, next) ∧
      s.tables.map (Table.mapIds fun _ => .fresh 0) = ts.map fun x => x.typed.table := by
  obtain ⟨rest, hrest, hscript⟩ := read_descriptions hvalid hp hread hnames
  have htyped : ∀ x ∈ ts.map CreateTable.typed, x.IsDescribable d ∧ x.definitions ≠ [] := by
    rw [List.forall_mem_map]
    exact fun x hx => ⟨((isValid_of_defines hvalid hp).1 x hx).isDescribable_typed,
      CreateTable.definitions_typed_ne_nil (hcolumns x hx)⟩
  have hnodup : ((ts.map CreateTable.typed).map fun x => Text.lower x.name).Nodup := by
    rw [List.map_map]
    exact hnames
  obtain ⟨s, next, hs, htables⟩ := @tables_ofStatements d (ts.map CreateTable.typed) ks rest
    (fun x hx => (htyped x hx).1) (fun x hx => (htyped x hx).2) hnodup hrest serial
  rw [List.map_map] at htables
  refine ⟨s, next, ?_, htables⟩
  rw [Reading.ofScript, if_neg (by simpa using hblank), hscript]
  simp only [hs]

/-- The schema of a page that is read as a whole. -/
theorem ofScript_eq (hvalid : p.IsValid d) (hp : p.Defines ts ks) (hread : ∀ x ∈ ts, x.IsRead d)
    (hcolumns : ∀ x ∈ ts, x.definitions ≠ []) (hnames : DistinctlyNamed (ts.map CreateTable.table))
    (hends : ∀ k ∈ ks, k.HasEnds (ts.map CreateTable.table))
    (hblank : Text.strip (String.ofList p.written) ≠ "") (serial : Nat) :
    ∃ s next, Reading.ofScript serial (String.ofList p.written) d = .ok (.schema s, next) ∧
      s.tables.map (Table.mapIds fun _ => .fresh 0) = ts.map CreateTable.table ∧
      (s.tableIds ++ s.columnIds).Nodup ∧
      s.relations.map (Relation.named? s.tables) =
        (NamedRelation.firstOnes (ks.map AddKey.relation)).map some := by
  have htables : (ts.map fun x => Text.lower x.name).Nodup := by
    simpa [List.map_map, Function.comp_def, CreateTable.table] using hnames.tableNames
  obtain ⟨hts, hks⟩ := isValid_of_defines hvalid hp
  obtain ⟨rest, hrest, hscript⟩ := read_descriptions hvalid hp hread htables
  rw [map_typed_eq_self hnames] at hscript
  obtain ⟨s, next, hs, h⟩ :=
    ofStatements_descriptions (fun x hx => (hts x hx).isDescribable) hks hcolumns hnames hends hrest serial
  refine ⟨s, next, ?_, h⟩
  rw [Reading.ofScript, if_neg (by simpa using hblank), hscript]
  simp only [hs]

/-- No schema comes of a page that is not read as a whole. -/
theorem ofScript_ne (hvalid : p.IsValid d) (hp : p.Defines ts ks) (hread : ∀ x ∈ ts, x.IsRead d ∨ x.IsStuck d)
    (hstuck : ∃ x ∈ ts, x.IsStuck d) (hblank : Text.strip (String.ofList p.written) ≠ "") (serial : Nat)
    (s : Schema) (next : Nat) :
    Reading.ofScript serial (String.ofList p.written) d ≠ .ok (.schema s, next) := by
  have hreads : ∀ x ∈ p.definitions, x.IsRead d ∨ x.IsStuck d := by
    rw [hp, List.forall_mem_append, List.forall_mem_map, List.forall_mem_map]
    exact ⟨hread, fun _ _ => Or.inl trivial⟩
  have hsome : ∃ x ∈ p.definitions, x.IsStuck d := by
    obtain ⟨x, hx, hxstuck⟩ := hstuck
    refine ⟨.table x, ?_, hxstuck⟩
    rw [hp]
    exact List.mem_append_left _ (List.mem_map_of_mem hx)
  obtain ⟨report, hreport⟩ := read_stuck hvalid hreads hsome
  rw [Reading.ofScript, if_neg (by simpa using hblank), hreport]
  simp only [Reading.ofReport]
  intro h
  cases hlocate : ErrorReport.locate _ with
  | error f => rw [hlocate] at h; cases h
  | ok place => rw [hlocate] at h; cases h

end Page

end SchemaDesk.Ddl
