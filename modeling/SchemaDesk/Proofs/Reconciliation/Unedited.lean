import SchemaDesk.Proofs.Ddl.RoundTrip
import SchemaDesk.Proofs.Timestamp.Instant
import SchemaDesk.Session
/-!
A script that is read back without an edit gives the schema back, with all its identifiers.
-/

namespace SchemaDesk

namespace Reconciliation

/-! ### Tables of the same names -/

/-- The tables have one name, and columns of the same names in the same order. -/
def SameNames (t n : Table) : Prop := n.name = t.name ∧ n.columns.map (·.name) = t.columns.map (·.name)

/-- The tables are one and the same, but for what the columns are. -/
structure SameTable (t u : Table) : Prop where
  identity : HasIdentityOf t u
  name : u.name = t.name
  columns : u.columns.map (fun c => (c.id, c.name)) = t.columns.map fun c => (c.id, c.name)

/-- Columns of the same names take over all identifiers. -/
theorem map_mergeColumn {t : Table} {cs : List Column} (hnames : (t.columns.map fun c => Text.lower c.name).Nodup)
    (h : cs.map (·.name) = t.columns.map (·.name)) :
    (cs.map (mergeColumn t)).map (fun c => (c.id, c.name)) = t.columns.map fun c => (c.id, c.name) := by
  have hmerged : List.Forall₂ (fun b c => mergeColumn t c = { c with id := b.id } ∧ c.name = b.name) t.columns cs := by
    refine forall₂_of_map_eq h fun b hb c hname => ⟨?_, hname⟩
    have hfind : t.findColumn? c.name = some b :=
      find?_sameName_eq_some_iff.mpr (firstNamed_of_nodup hnames hb (by rw [hname]))
    simp only [mergeColumn, hfind]
  rw [List.map_map, ← List.forall₂_eq_eq_eq, List.forall₂_map_left_iff, List.forall₂_map_right_iff]
  refine hmerged.flip.imp fun c b hc => ?_
  rw [Function.comp_apply, hc.1, hc.2]

theorem sameTable_mergeTable {t n : Table} (hnames : (t.columns.map fun c => Text.lower c.name).Nodup)
    (h : SameNames t n) : SameTable t (mergeTable (some t) n) :=
  ⟨mergeTable_hasIdentityOf t n, h.1, map_mergeColumn hnames h.2⟩

theorem forall₂_sameTable {old new : List Table} (hnames : ∀ t ∈ old, (t.columns.map fun c => Text.lower c.name).Nodup)
    (h : List.Forall₂ SameNames old new) :
    List.Forall₂ SameTable old (((old.map some).zip new).map fun p => mergeTable p.1 p.2) := by
  induction h with
  | nil => exact .nil
  | @cons t n _ _ h _ ih => exact .cons (sameTable_mergeTable (hnames t (by simp)) h) (ih fun t ht => hnames t (by simp [ht]))

/-! ### Ends of relations -/

theorem mapId_eq_of_mem {ids : List (Id × Id)} (hids : (ids.map Prod.fst).Nodup) {a b : Id} (h : (a, b) ∈ ids) :
    mapId ids a = b := by
  have hmaps := mapId_mapsTo ids a
  generalize mapId ids a = c at hmaps ⊢
  rcases hmaps with ⟨before, after, hsplit, -⟩ | ⟨hnone, -⟩
  · have hmem : (a, c) ∈ ids := by
      rw [hsplit]
      simp
    exact congrArg Prod.snd (List.inj_on_of_nodup_map hids hmem h rfl)
  · exact (hnone _ h rfl).elim

theorem exists_mem_zip {α β : Type} {R : α → β → Prop} {as : List α} {bs : List β} (h : List.Forall₂ R as bs) {a : α}
    (ha : a ∈ as) : ∃ b ∈ bs, (a, b) ∈ as.zip bs ∧ R a b := by
  induction h with
  | nil => cases ha
  | @cons x y _ _ hxy _ ih =>
    rcases List.mem_cons.mp ha with rfl | ha
    · exact ⟨y, by simp, by simp, hxy⟩
    · obtain ⟨b, hb, hzip, hR⟩ := ih ha
      exact ⟨b, by simp [hb], by simp [hzip], hR⟩

theorem SameTable.exists_column {t u : Table} (h : SameTable t u) {b : Column} (hb : b ∈ u.columns) :
    ∃ c ∈ t.columns, c.id = b.id ∧ c.name = b.name := by
  obtain ⟨c, hc, hpair⟩ := List.mem_map.mp (h.columns ▸ List.mem_map_of_mem hb :
    (b.id, b.name) ∈ t.columns.map fun c => (c.id, c.name))
  exact ⟨c, hc, Prod.mk.inj hpair⟩

theorem SameTable.exists_column' {t u : Table} (h : SameTable t u) {c : Column} (hc : c ∈ t.columns) :
    ∃ b ∈ u.columns, b.id = c.id ∧ b.name = c.name := by
  obtain ⟨b, hb, hpair⟩ := List.mem_map.mp (h.columns ▸ List.mem_map_of_mem hc :
    (c.id, c.name) ∈ u.columns.map fun c => (c.id, c.name))
  exact ⟨b, hb, Prod.mk.inj hpair⟩

variable {old new : Schema} {us : List Table}

/-- An end of a new relation becomes the end of the same names. -/
theorem mapEnd_eq (hold : DistinctlyNamed old.tables) (hids : (new.tableIds ++ new.columnIds).Nodup)
    (hcontent : List.Forall₂ SameContent new.tables us) (hsame : List.Forall₂ SameTable old.tables us)
    {e e' : Endpoint} {t n : Table} {b c : Column} (he : e.find? new.tables = some (n, b))
    (he' : e'.find? old.tables = some (t, c)) (htable : n.name = t.name) (hcolumn : b.name = c.name) :
    mapId (tableIds (new.tables.zip us)) e.table = e'.table ∧
      mapId (columnIds (new.tables.zip us)) e.column = e'.column := by
  obtain ⟨hn, hnid, hb, hbid⟩ := Endpoint.mem_of_find? he
  obtain ⟨ht, htid, hc, hcid⟩ := Endpoint.mem_of_find? he'
  obtain ⟨htableIds, hcolumnIds, -⟩ := List.nodup_append.mp hids
  obtain ⟨u, hu, hnu, hname, hcolumns⟩ := exists_mem_zip hcontent hn
  obtain ⟨t', ht', -, hut⟩ := exists_mem_zip hsame.flip hu
  obtain rfl : t' = t := hold.table_eq ht' ht (by rw [← hut.name, hname, htable])
  obtain ⟨a, ha, hba, hab⟩ := exists_mem_zip hcolumns hb
  obtain ⟨c', hc', hac, hac'⟩ := hut.exists_column ha
  have haname : a.name = b.name := by rw [hab]
  obtain rfl : c' = c := hold.column_eq ht hc' hc (by rw [hac', haname, hcolumn])
  constructor
  · refine mapId_eq_of_mem (map_fst_tableIds hcontent ▸ htableIds) (List.mem_map.mpr ⟨(n, u), hnu, ?_⟩)
    rw [← hnid, ← htid]
    exact congrArg _ hut.identity.1
  · refine mapId_eq_of_mem (map_fst_columnIds hcontent ▸ hcolumnIds) (List.mem_flatMap.mpr ⟨(n, u), hnu, ?_⟩)
    refine List.mem_map.mpr ⟨(b, a), hba, ?_⟩
    rw [← hbid, ← hcid, hac]

theorem hasEndpoint_of_sameTable (hids : old.tableIds.Nodup) (hsame : List.Forall₂ SameTable old.tables us) {e : Endpoint}
    {t : Table} {c : Column} (he : e.find? old.tables = some (t, c)) : HasEndpoint us e := by
  have huids : us.map (·.id) = old.tableIds := by
    rw [Schema.tableIds, ← List.forall₂_eq_eq_eq, List.forall₂_map_left_iff, List.forall₂_map_right_iff]
    exact hsame.flip.imp fun _ _ h => h.identity.1
  obtain ⟨ht, htid, hc, hcid⟩ := Endpoint.mem_of_find? he
  obtain ⟨u, hu, -, htu⟩ := exists_mem_zip hsame ht
  obtain ⟨b, hb, hbc, -⟩ := htu.exists_column' hc
  exact (hasEndpoint_iff_of_nodup (huids ▸ hids)).mpr ⟨u, hu, htu.identity.1.trans htid, b, hb, hbc.trans hcid⟩

/-- A new relation connects the columns of some old one. -/
def Repeats (old new : Schema) (r : Relation) : Prop :=
  ∃ n m, r.named? new.tables = some n ∧ (∃ q ∈ old.relations, q.named? old.tables = some m) ∧
    (n.table, n.column, n.target, n.targetColumn) = (m.table, m.column, m.target, m.targetColumn)

/-- A schema of the same names and without new relations changes nothing. -/
theorem reconcile_unedited (hids : old.tableIds.Nodup) (hnames : DistinctlyNamed old.tables)
    (hnew : (new.tableIds ++ new.columnIds).Nodup) (hsame : List.Forall₂ SameNames old.tables new.tables)
    (hends : ∀ r ∈ old.relations, (r.ends? old.tables).isSome) (hrelations : ∀ r ∈ new.relations, Repeats old new r)
    (names : List String) :
    List.Forall₂ SameTable old.tables (old.reconcile names new).schema.tables ∧
      (old.reconcile names new).schema.relations = old.relations ∧ (old.reconcile names new).renamed = [] := by
  have hlower : List.Forall₂ (fun o n => Text.lower o.name = Text.lower n.name) old.tables new.tables :=
    hsame.imp fun _ _ h => congrArg Text.lower h.1.symm
  have hnewNames : (new.tables.map fun t => Text.lower t.name).Nodup := by
    have heq : (new.tables.map fun t => Text.lower t.name) = old.tables.map fun t => Text.lower t.name := by
      rw [← List.forall₂_eq_eq_eq, List.forall₂_map_left_iff, List.forall₂_map_right_iff]
      exact hlower.flip.imp fun _ _ h => h.symm
    exact heq ▸ hnames.tableNames
  have hmatching := matching_eq_map_some hids hlower hnewNames names
  have hcontent : List.Forall₂ SameContent new.tables
      (((old.tables.map some).zip new.tables).map fun p => mergeTable p.1 p.2) :=
    zip_mergeTable_sameContent (by simpa using hsame.length_eq)
  have htables := forall₂_sameTable hnames.columnNames hsame
  have hmerged : old.reconcile names new = ⟨⟨((old.tables.map some).zip new.tables).map fun p => mergeTable p.1 p.2,
      mergeRelations (((old.tables.map some).zip new.tables).map fun p => mergeTable p.1 p.2) old.relations
        (new.relations.map (mapEnds (new.tables.zip
          (((old.tables.map some).zip new.tables).map fun p => mergeTable p.1 p.2))))⟩, []⟩ := by
    rw [Schema.reconcile, hmatching, renamedTables_eq_nil hlower]
  rw [hmerged]
  generalize ((old.tables.map some).zip new.tables).map (fun p => mergeTable p.1 p.2) = us at hcontent htables
  have hkept : old.relations.filter (hasEnds us) = old.relations := by
    refine List.filter_eq_self.mpr fun r hr => hasEnds_iff.mpr ?_
    obtain ⟨e, he⟩ := Option.isSome_iff_exists.mp (hends r hr)
    obtain ⟨hsource, htarget⟩ := Relation.ends?_eq_some_iff.mp he
    exact ⟨hasEndpoint_of_sameTable hids htables hsource, hasEndpoint_of_sameTable hids htables htarget⟩
  refine ⟨htables, ?_, rfl⟩
  show mergeRelations us old.relations (new.relations.map (mapEnds (new.tables.zip us))) = old.relations
  rw [mergeRelations, hkept]
  refine foldl_addTo_eq_self fun r hr => ?_
  obtain ⟨r, hr', rfl⟩ := List.mem_map.mp (List.mem_filter.mp hr).1
  obtain ⟨n, m, hn, ⟨q, hq, hm⟩, hsameEnds⟩ := hrelations r hr'
  obtain ⟨e, he, rfl⟩ := Option.map_eq_some_iff.mp hn
  obtain ⟨e', he', rfl⟩ := Option.map_eq_some_iff.mp hm
  obtain ⟨hsource, htarget⟩ := Relation.ends?_eq_some_iff.mp he
  obtain ⟨hsource', htarget'⟩ := Relation.ends?_eq_some_iff.mp he'
  simp only [Prod.mk.injEq] at hsameEnds
  obtain ⟨htable, hcolumn, htargetTable, htargetColumn⟩ := hsameEnds
  obtain ⟨hst, hsc⟩ := mapEnd_eq hnames hnew hcontent htables hsource hsource' htable hcolumn
  obtain ⟨htt, htc⟩ := mapEnd_eq hnames hnew hcontent htables htarget htarget' htargetTable htargetColumn
  refine Relation.existsIn_iff.mpr ⟨q, hq, Or.inl ⟨?_, ?_⟩⟩
  · exact congrArg₂ Endpoint.mk hst.symm hsc.symm
  · exact congrArg₂ Endpoint.mk htt.symm htc.symm

end Reconciliation

open Reconciliation Ddl

/-! ### Scripts -/

namespace DateTime

/-- The text of a time is a word of digits and marks. -/
theorem isStamp_text {t : DateTime} {s : String} (h : t.text = .ok s) : Schema.IsStamp s := by
  rw [text] at h
  split at h
  · obtain rfl := Except.ok.inj h
    have hdigit : ∀ c : Char, c.isDigit = true → Text.isBlank c = false := fun c hc =>
      Text.isBlank_of_isNameChar (by simp [Text.isNameChar, Char.isAlphanum, hc])
    have hpadded (width : Nat) (n : Int) : ∀ c ∈ padded width n, Text.isBlank c = false := fun c hc =>
      hdigit c (isDigit_of_mem_padded hc)
    constructor
    · intro hempty
      have hlength := congrArg (fun s : String => s.toList.length) hempty
      simp [instantText] at hlength
    · rw [instantText, String.toList_ofList]
      simp only [List.forall_mem_append, List.forall_mem_cons]
      refine ⟨⟨⟨⟨⟨⟨⟨hpadded _ _, ?_, hpadded _ _⟩, ?_, hpadded _ _⟩, ?_, hpadded _ _⟩, ?_, hpadded _ _⟩, ?_,
        hpadded _ _⟩, ?_, hpadded _ _⟩, ?_, List.forall_mem_nil _⟩ <;> decide
  · cases h

end DateTime

namespace Schema

variable {s p : Schema} {d : Dialect} {madeAt : String}

theorem IsEcho.sameNames (h : s.IsEcho d p) : List.Forall₂ SameNames s.tables p.tables := by
  refine forall₂_of_map_eq h.tables fun t _ n hn => ?_
  have hname : n.name = t.name := by injection hn
  have hcolumns : n.columns.map (Column.mapIds fun _ => .fresh 0) = t.columns.map (·.echo d t.hasCompositeKey) :=
    congrArg Table.columns hn
  refine ⟨hname, ?_⟩
  have hnames := congrArg (List.map Column.name) hcolumns
  rw [List.map_map, List.map_map] at hnames
  exact hnames

theorem IsEcho.repeats (h : s.IsEcho d p) {r : Relation} (hr : r ∈ p.relations) : Repeats s p r := by
  have hmem : r.named? p.tables ∈ p.relations.map (Relation.named? p.tables) := List.mem_map_of_mem hr
  rw [h.relations] at hmem
  obtain ⟨n, hn, hnamed⟩ := List.mem_map.mp hmem
  obtain ⟨m, hm, rfl⟩ := List.mem_map.mp (NamedRelation.mem_of_mem_firstOnes hn)
  exact ⟨_, m, hnamed.symm, List.mem_filterMap.mp hm, rfl⟩

theorem script_ne_empty (s : Schema) (d : Dialect) (madeAt : String) : s.script d madeAt ≠ "" := by
  intro hempty
  have hblank := script_ne_blank s d madeAt
  rw [hempty] at hblank
  exact hblank rfl

theorem tableNames_script (hs : s.IsWritable d) (hat : IsStamp madeAt) (hread : s.IsReadable d) :
    Reading.tableNames (s.script d madeAt) d = .ok (s.tables.map (·.name)) := by
  obtain ⟨p, next, hp, hecho⟩ := exists_echo hs hat hread 0
  have hnames : p.tables.map (·.name) = s.tables.map (·.name) := by
    rw [← List.forall₂_eq_eq_eq, List.forall₂_map_left_iff, List.forall₂_map_right_iff]
    exact hecho.sameNames.flip.imp fun _ _ h => h.1
  rw [Reading.tableNames, if_neg (by simpa using script_ne_empty s d madeAt), hp, ← hnames]
  rfl

/-- A script that is made at some time bears a text of that time. -/
theorem exists_isStamp {t : DateTime} {script : String} (h : scriptOf (some s) d (.time t) = .ok script) :
    ∃ madeAt, IsStamp madeAt ∧ s.script d madeAt = script := by
  rw [scriptOf, Timestamp.toText] at h
  cases htext : t.text with
  | error f => rw [htext] at h; cases h
  | ok madeAt =>
    rw [htext] at h
    exact ⟨madeAt, DateTime.isStamp_text htext, Except.ok.inj h⟩

/-- Noon of the first day of the year 2024. -/
def newYear : DateTime :=
  { year := 2024, month := 1, day := 1, hour := 12, minute := 0, second := 0, microsecond := 0 }

/-- The new year is a time that has a text. -/
theorem text_newYear : newYear.text = .ok (DateTime.instantText newYear.instant) := if_pos (by decide)

theorem scriptOf_newYear (s : Schema) (d : Dialect) :
    scriptOf (some s) d (.time newYear) = .ok (s.script d (DateTime.instantText newYear.instant)) :=
  congrArg (Except.map (s.script d)) text_newYear

end Schema

end SchemaDesk
