import Mathlib.Data.Set.Function
import SchemaDesk.Proofs.Reconciliation.Relations
import SchemaDesk.Proofs.Reconciliation.Tables
import SchemaDesk.Proofs.Schema.Identifier

/-!
An edited script that is read again, with other identifiers, changes nothing more: every table and every
column is known again by its name, and every relation connects columns that are connected already.
-/

namespace SchemaDesk

namespace Reconciliation

/-! ### Identifiers of the outcome -/

theorem TakesByName.place_le {old new : List Table} {i j : Nat} {o : Table}
    (hi : TakesByName old new i o) (hj : TakesByName old new j o) : j ≤ i := by
  obtain ⟨n, hn, hfirst, -⟩ := hi
  obtain ⟨m, -, hfirst', hearlier⟩ := hj
  exact Nat.not_lt.mp fun hij => hearlier i n hij hn (hfirst.lower_eq.symm.trans hfirst'.lower_eq)

/-- No old table is taken over at two places. -/
theorem Takes.place_unique {old : List Table} {names : List String} {new : List Table} {i j : Nat}
    {o : Table} (hi : Takes old names new i o) (hj : Takes old names new j o) : i = j := by
  have hmixed {k l : Nat} (hk : TakesByName old new k o) (hl : TakesByPlace old names new l o) : False := by
    obtain ⟨n, hn, hfirst, -⟩ := hk
    obtain ⟨-, -, -, hfree, -⟩ := takesByPlace_iff.mp hl
    exact hfree n (List.mem_of_getElem? hn) hfirst.lower_eq.symm
  rcases hi with hi | hi <;> rcases hj with hj | hj
  · exact Nat.le_antisymm (hj.place_le hi) (hi.place_le hj)
  · exact (hmixed hi hj).elim
  · exact (hmixed hj hi).elim
  · obtain ⟨-, -, -, -, hearlier⟩ := takesByPlace_iff.mp hi
    obtain ⟨-, -, -, -, hearlier'⟩ := takesByPlace_iff.mp hj
    exact Nat.le_antisymm (Nat.not_lt.mp fun h => hearlier j h hj) (Nat.not_lt.mp fun h => hearlier' i h hi)

/-- The tables of the outcome have identifiers of their own. -/
theorem nodup_tableIds_reconcile {old new : Schema} (hold : old.tableIds.Nodup)
    (hnew : new.tableIds.Nodup) (hdisjoint : ∀ o ∈ old.tables, ∀ n ∈ new.tables, o.id ≠ n.id)
    (names : List String) : (old.reconcile names new).schema.tableIds.Nodup := by
  have hlength : (old.reconcile names new).schema.tables.length = new.tables.length := by
    obtain ⟨hlength, -⟩ := matching_spec hold names new.tables
    simp [Schema.reconcile, hlength]
  rw [Schema.tableIds, List.Nodup, List.pairwise_map, List.pairwise_iff_getElem] at hnew ⊢
  intro i j hi hj hij heq
  have hni := List.getElem?_eq_getElem (hlength ▸ hi)
  have hnj := List.getElem?_eq_getElem (hlength ▸ hj)
  rcases getElem?_reconcile hold hni (List.getElem?_eq_getElem hi) with ⟨o, ho, hti⟩ | ⟨-, hti⟩ <;>
    rcases getElem?_reconcile hold hnj (List.getElem?_eq_getElem hj) with ⟨p, hp, htj⟩ | ⟨-, htj⟩ <;>
    rw [hti, htj] at heq
  · obtain rfl := eq_of_mem_of_id_eq hold ho.mem hp.mem heq
    exact Nat.ne_of_lt hij (ho.place_unique hp)
  · exact hdisjoint o ho.mem _ (List.mem_of_getElem? hnj) heq
  · exact hdisjoint p hp.mem _ (List.mem_of_getElem? hni) heq.symm
  · exact hnew i j _ _ hij heq

/-! ### Tables that are known again -/

theorem firstNamed_of_nodup {α : Type} {name : α → String} {xs : List α} {s : String} {x : α}
    (hnames : (xs.map fun y => Text.lower (name y)).Nodup) (hx : x ∈ xs)
    (hname : Text.lower (name x) = Text.lower s) : FirstNamed name xs s x := by
  obtain ⟨before, after, rfl⟩ := List.append_of_mem hx
  refine ⟨before, after, rfl, hname, fun y hy heq => ?_⟩
  rw [List.map_append, List.nodup_append] at hnames
  exact hnames.2.2 _ (List.mem_map_of_mem hy) _ (by simp) (heq.trans hname.symm)

/-- Old tables and new ones with the same names in the same order belong together. -/
theorem matching_eq_map_some {old new : List Table} (hids : (old.map (·.id)).Nodup)
    (hsame : List.Forall₂ (fun o n => Text.lower o.name = Text.lower n.name) old new)
    (hnames : (new.map fun t => Text.lower t.name).Nodup) (names : List String) :
    matching old names new = old.map some := by
  obtain ⟨hlength, htakes⟩ := matching_spec hids names new
  have hnames' : (old.map fun t => Text.lower t.name) = new.map fun t => Text.lower t.name := by
    rw [← List.forall₂_eq_eq_eq, List.forall₂_map_left_iff, List.forall₂_map_right_iff]
    exact hsame
  refine List.ext_getElem (by simp [hlength, hsame.length_eq]) fun i hi hi' => ?_
  have hio : i < old.length := by simpa using hi'
  have hin : i < new.length := hlength ▸ hi
  have hname := hsame.get hio hin
  have htaken : TakesByName old new i old[i] := by
    refine ⟨new[i], List.getElem?_eq_getElem hin,
      firstNamed_of_nodup (hnames' ▸ hnames) (List.getElem_mem hio) hname, fun j m hj hm heq => ?_⟩
    obtain ⟨hjn, rfl⟩ := List.getElem?_eq_some_iff.mp hm
    have hpairwise := List.pairwise_iff_getElem.mp (List.pairwise_map.mp hnames)
    exact hpairwise j i hjn hin hj heq
  have hfound := (htakes i old[i]).mpr (Or.inl htaken)
  rw [List.getElem?_eq_getElem hi, Option.some.injEq] at hfound
  simpa using hfound

theorem SameButId.symm {c c' : Column} (h : SameButId c c') : SameButId c' c := by
  rw [SameButId] at h ⊢
  rw [h]

theorem SameButId.trans {a b c : Column} (hab : SameButId a b) (hbc : SameButId b c) :
    SameButId a c := by
  rw [SameButId] at hab hbc ⊢
  rw [hbc, hab]

/-- The tables have one name and the same columns in the same order. -/
def SameContent (n t : Table) : Prop :=
  t.name = n.name ∧ List.Forall₂ SameButId n.columns t.columns

theorem mergeColumn_eq_of_sameButId {t : Table} (hnames : (t.columns.map fun c => Text.lower c.name).Nodup)
    {c c' : Column} (hc' : c' ∈ t.columns) (hsame : SameButId c c') : mergeColumn t c = c' := by
  have hname : c'.name = c.name := by rw [hsame]
  have hfind : t.findColumn? c.name = some c' :=
    find?_sameName_eq_some_iff.mpr (firstNamed_of_nodup hnames hc' (by rw [hname]))
  simp only [mergeColumn, hfind]
  exact Eq.symm hsame

/-- A table that takes over one with the same content becomes that table. -/
theorem mergeTable_eq_of_sameContent {n t : Table}
    (hnames : (t.columns.map fun c => Text.lower c.name).Nodup) (h : SameContent n t) :
    mergeTable (some t) n = t := by
  obtain ⟨hname, hcolumns⟩ := h
  have hmerged : ∀ cs cs', List.Forall₂ SameButId cs cs' → (∀ c ∈ cs', c ∈ t.columns) →
      cs.map (mergeColumn t) = cs' := by
    intro cs cs' hsame hmem
    induction hsame with
    | nil => rfl
    | cons hc _ ih =>
      rw [List.map_cons, mergeColumn_eq_of_sameButId hnames (hmem _ (by simp)) hc,
        ih fun c hc => hmem c (by simp [hc])]
  simp only [mergeTable, hmerged _ _ hcolumns fun _ hc => hc, ← hname]

theorem renamedTables_eq_nil {old new : List Table}
    (h : List.Forall₂ (fun o n => Text.lower o.name = Text.lower n.name) old new) :
    renamedTables (old.map some) new = [] := by
  rw [renamedTables]
  induction h with
  | nil => rfl
  | @cons o n olds news hname _ ih =>
    have hsame : Text.sameName o.name n.name = true := beq_iff_eq.mpr hname
    simpa [hsame] using ih

theorem SameContent.lower_columns_eq {n t : Table} (h : SameContent n t) :
    (n.columns.map fun c => Text.lower c.name) = t.columns.map fun c => Text.lower c.name := by
  rw [← List.forall₂_eq_eq_eq, List.forall₂_map_left_iff, List.forall₂_map_right_iff]
  exact h.2.imp fun _ _ hc => by rw [hc]

theorem map_mergeTable_eq_of_sameContent {new old : List Table}
    (hcolumns : ∀ t ∈ new, (t.columns.map fun c => Text.lower c.name).Nodup)
    (hsame : List.Forall₂ SameContent new old) :
    ((old.map some).zip new).map (fun p => mergeTable p.1 p.2) = old := by
  induction hsame with
  | nil => rfl
  | @cons n t _ _ h _ ih =>
    have hnodup := h.lower_columns_eq ▸ hcolumns n (by simp)
    rw [List.map_cons, List.zip_cons_cons, List.map_cons, mergeTable_eq_of_sameContent hnodup h,
      ih fun t ht => hcolumns t (by simp [ht])]

/-- Tables with the content of the old ones give the old ones back. -/
theorem reconcile_sameContent {old new : Schema} (hids : old.tableIds.Nodup)
    (hnames : (new.tables.map fun t => Text.lower t.name).Nodup)
    (hcolumns : ∀ t ∈ new.tables, (t.columns.map fun c => Text.lower c.name).Nodup)
    (hsame : List.Forall₂ SameContent new.tables old.tables) (names : List String) :
    (old.reconcile names new).schema.tables = old.tables ∧ (old.reconcile names new).renamed = [] := by
  have hlower : List.Forall₂ (fun o n => Text.lower o.name = Text.lower n.name) old.tables new.tables :=
    hsame.flip.imp fun _ _ h => congrArg Text.lower h.1
  have hmatching := matching_eq_map_some hids hlower hnames names
  constructor
  · simp only [Schema.reconcile, hmatching, map_mergeTable_eq_of_sameContent hcolumns hsame]
  · simp only [Schema.reconcile, hmatching, renamedTables_eq_nil hlower]

/-! ### Relations that are there already -/

theorem foldl_addTo_eq_self {more start : List Relation} (h : ∀ r ∈ more, r.existsIn start = true) :
    more.foldl (fun rs r => r.addTo rs) start = start := by
  induction more with
  | nil => rfl
  | cons r more ih =>
    have hadd : r.addTo start = start := by simp [Relation.addTo, h r (by simp)]
    rw [List.foldl_cons, hadd]
    exact ih fun s hs => h s (by simp [hs])

theorem lookup_map_of_inj {f : Id → Id} {ids : List (Id × Id)} {a : Id}
    (hf : ∀ p ∈ ids, f a = f p.1 → a = p.1) :
    (ids.map fun p => (f p.1, p.2)).lookup (f a) = ids.lookup a := by
  induction ids with
  | nil => rfl
  | cons p ids ih =>
    have hbeq : (f a == f p.1) = (a == p.1) := by
      rw [Bool.eq_iff_iff, beq_iff_eq, beq_iff_eq]
      exact ⟨hf p (by simp), congrArg f⟩
    rw [List.map_cons, List.lookup_cons, List.lookup_cons, hbeq, ih fun q hq => hf q (by simp [hq])]

/-- Other identifiers in front become the same as those that they stand for. -/
theorem mapId_map_of_inj {f : Id → Id} {ids : List (Id × Id)} {a : Id} (ha : a ∈ ids.map Prod.fst)
    (hf : ∀ p ∈ ids, f a = f p.1 → a = p.1) :
    mapId (ids.map fun p => (f p.1, p.2)) (f a) = mapId ids a := by
  have hsome : (ids.reverse.lookup a).isSome := by
    obtain ⟨p, hp, rfl⟩ := List.mem_map.mp ha
    exact List.lookup_isSome_iff.mpr ⟨p, by simpa using hp, by simp⟩
  obtain ⟨b, hb⟩ := Option.isSome_iff_exists.mp hsome
  have hlookup : (ids.reverse.map fun p => (f p.1, p.2)).lookup (f a) = ids.reverse.lookup a :=
    lookup_map_of_inj fun p hp => hf p (by simpa using hp)
  rw [mapId, mapId, ← List.map_reverse, hlookup, hb]
  rfl

theorem tableIds_mapIds (f : Id → Id) (ns ts : List Table) :
    tableIds ((ns.map (Table.mapIds f)).zip ts) = (tableIds (ns.zip ts)).map fun p => (f p.1, p.2) := by
  simp [tableIds, List.zip_map_left, Table.mapIds]

theorem columnIds_mapIds (f : Id → Id) (ns ts : List Table) :
    columnIds ((ns.map (Table.mapIds f)).zip ts) = (columnIds (ns.zip ts)).map fun p => (f p.1, p.2) := by
  simp only [columnIds, List.zip_map_left, List.flatMap_map, List.map_flatMap]
  refine List.flatMap_congr fun p _ => ?_
  simp [Table.mapIds, List.zip_map_left, Column.mapIds]

theorem map_fst_zip_ids {α : Type} {R : α → α → Prop} {id : α → Id} {xs ys : List α}
    (h : List.Forall₂ R xs ys) : ((xs.zip ys).map fun p => (id p.1, id p.2)).map Prod.fst = xs.map id := by
  induction h with
  | nil => rfl
  | cons _ _ ih => simpa using ih

theorem map_fst_tableIds {ns ts : List Table} (h : List.Forall₂ SameContent ns ts) :
    (tableIds (ns.zip ts)).map Prod.fst = ns.map (·.id) :=
  map_fst_zip_ids h

theorem map_fst_columnIds {ns ts : List Table} (h : List.Forall₂ SameContent ns ts) :
    (columnIds (ns.zip ts)).map Prod.fst = ns.flatMap fun t => t.columns.map (·.id) := by
  induction h with
  | nil => rfl
  | cons h _ ih =>
    rw [columnIds] at ih ⊢
    rw [List.zip_cons_cons, List.flatMap_cons, List.map_append, ih, map_fst_zip_ids h.2, List.flatMap_cons]

/-- The end of a relation is at a table and at a column of the schema. -/
def EndIn (s : Schema) (e : Endpoint) : Prop := e.table ∈ s.tableIds ∧ e.column ∈ s.columnIds

/-- A relation with other identifiers gets the ends that the relation itself gets. -/
theorem mapEnds_mapIds {new : Schema} {ts : List Table} {f : Id → Id}
    (hsame : List.Forall₂ SameContent new.tables ts) (hf : Set.InjOn f {id | id ∈ new.ids})
    {r : Relation} (hsource : EndIn new r.source) (htarget : EndIn new r.target) :
    (mapEnds ((new.mapIds f).tables.zip ts) (r.mapIds f)).source = (mapEnds (new.tables.zip ts) r).source ∧
      (mapEnds ((new.mapIds f).tables.zip ts) (r.mapIds f)).target =
        (mapEnds (new.tables.zip ts) r).target := by
  have htable {a : Id} (ha : a ∈ new.tableIds) :
      mapId (tableIds ((new.mapIds f).tables.zip ts)) (f a) = mapId (tableIds (new.tables.zip ts)) a := by
    have hkeys : (tableIds (new.tables.zip ts)).map Prod.fst = new.tableIds := map_fst_tableIds hsame
    rw [Schema.mapIds, tableIds_mapIds]
    refine mapId_map_of_inj (hkeys ▸ ha) fun p hp => hf (Schema.mem_ids_of_mem_tableIds ha) ?_
    exact Schema.mem_ids_of_mem_tableIds (hkeys ▸ List.mem_map_of_mem hp)
  have hcolumn {a : Id} (ha : a ∈ new.columnIds) :
      mapId (columnIds ((new.mapIds f).tables.zip ts)) (f a) = mapId (columnIds (new.tables.zip ts)) a := by
    have hkeys : (columnIds (new.tables.zip ts)).map Prod.fst = new.columnIds := map_fst_columnIds hsame
    rw [Schema.mapIds, columnIds_mapIds]
    refine mapId_map_of_inj (hkeys ▸ ha) fun p hp => hf (Schema.mem_ids_of_mem_columnIds ha) ?_
    exact Schema.mem_ids_of_mem_columnIds (hkeys ▸ List.mem_map_of_mem hp)
  exact ⟨congrArg₂ Endpoint.mk (htable hsource.1) (hcolumn hsource.2),
    congrArg₂ Endpoint.mk (htable htarget.1) (hcolumn htarget.2)⟩

/-! ### The second edit -/

theorem zip_mergeTable_sameContent {found : List (Option Table)} {ns : List Table}
    (hlength : found.length = ns.length) :
    List.Forall₂ SameContent ns ((found.zip ns).map fun p => mergeTable p.1 p.2) := by
  induction ns generalizing found with
  | nil => simp
  | cons n ns ih =>
    obtain - | ⟨o?, found⟩ := found
    · cases hlength
    · exact .cons (mergeTable_content o? n) (ih (by simpa using hlength))

theorem sameContent_mapIds (f : Id → Id) {ns ts : List Table} (h : List.Forall₂ SameContent ns ts) :
    List.Forall₂ SameContent (ns.map (Table.mapIds f)) ts := by
  rw [List.forall₂_map_left_iff]
  refine h.imp fun n t h => ⟨h.1, ?_⟩
  rw [Table.mapIds, List.forall₂_map_left_iff]
  exact h.2.imp fun _ _ hc => hc

/-- Relations that come again, with ends in the merged tables, connect nothing new. -/
theorem mergeRelations_again {tables : List Table} {old new again : List Relation}
    (hends : ∀ r ∈ again, ∃ s ∈ new, r.source = s.source ∧ r.target = s.target) :
    mergeRelations tables (mergeRelations tables old new) again = mergeRelations tables old new := by
  have hextended := foldl_addTo_extended (new.filter (hasEnds tables)) (old.filter (hasEnds tables))
  obtain ⟨⟨added, heq, hsub⟩, hcovers, -⟩ := hextended
  have hkept : ∀ r ∈ mergeRelations tables old new, hasEnds tables r = true := by
    intro r hr
    rw [mergeRelations, heq] at hr
    rcases List.mem_append.mp hr with hr | hr
    · exact (List.mem_filter.mp hr).2
    · exact (List.mem_filter.mp (hsub.subset hr)).2
  rw [mergeRelations, List.filter_eq_self.mpr hkept]
  refine foldl_addTo_eq_self fun r hr => ?_
  obtain ⟨hr, hrends⟩ := List.mem_filter.mp hr
  obtain ⟨s, hs, hsource, htarget⟩ := hends r hr
  have hsends : hasEnds tables s = true := by
    rw [hasEnds_iff] at hrends ⊢
    exact ⟨hsource ▸ hrends.1, htarget ▸ hrends.2⟩
  obtain ⟨t, ht, hconnects⟩ := hcovers s (List.mem_filter.mpr ⟨hs, hsends⟩)
  rw [Relation.existsIn_iff]
  refine ⟨t, ht, ?_⟩
  rw [Relation.Connects, hsource, htarget]
  exact hconnects

/-- The schema that is read from the edited script once more, under other identifiers, is the one that
is there already: all of it is kept, and nothing is renamed. -/
theorem reconcile_mapIds_again (old new : Schema) (names again : List String) (f : Id → Id)
    (hids : (old.ids ++ new.ids).Nodup)
    (hnames : (new.tables.map fun t => Text.lower t.name).Nodup)
    (hcolumns : ∀ t ∈ new.tables, (t.columns.map fun c => Text.lower c.name).Nodup)
    (hends : ∀ r ∈ new.relations, EndIn new r.source ∧ EndIn new r.target)
    (hf : Set.InjOn f {id | id ∈ new.ids}) :
    (old.reconcile names new).schema.reconcile again (new.mapIds f) =
      { schema := (old.reconcile names new).schema, renamed := [] } := by
  obtain ⟨hold, hnew, hdisjoint⟩ := List.nodup_append.mp hids
  have hold : old.tableIds.Nodup := (List.nodup_append.mp (List.nodup_append.mp hold).1).1
  have hnew : new.tableIds.Nodup := (List.nodup_append.mp (List.nodup_append.mp hnew).1).1
  have hdisjoint : ∀ o ∈ old.tables, ∀ n ∈ new.tables, o.id ≠ n.id := fun o ho n hn =>
    hdisjoint _ (Schema.mem_ids_of_mem_tableIds (List.mem_map_of_mem ho)) _
      (Schema.mem_ids_of_mem_tableIds (List.mem_map_of_mem hn))
  obtain ⟨hlength, -⟩ := matching_spec hold names new.tables
  have hsame : List.Forall₂ SameContent new.tables (old.reconcile names new).schema.tables :=
    zip_mergeTable_sameContent hlength
  have hrelations : (old.reconcile names new).schema.relations = mergeRelations
      (old.reconcile names new).schema.tables old.relations
      (new.relations.map (mapEnds (new.tables.zip (old.reconcile names new).schema.tables))) := rfl
  have hresult := nodup_tableIds_reconcile hold hnew hdisjoint names
  generalize (old.reconcile names new).schema = result at hsame hrelations hresult
  have hnames' : ((new.mapIds f).tables.map fun t => Text.lower t.name).Nodup := by
    rw [Schema.mapIds, List.map_map]
    exact hnames
  have hcolumns' : ∀ t ∈ (new.mapIds f).tables, (t.columns.map fun c => Text.lower c.name).Nodup := by
    intro t ht
    obtain ⟨n, hn, rfl⟩ := List.mem_map.mp ht
    rw [Table.mapIds, List.map_map]
    exact hcolumns n hn
  obtain ⟨htables, hrenamed⟩ := reconcile_sameContent hresult hnames' hcolumns'
    (sameContent_mapIds f hsame) again
  have hkept : (result.reconcile again (new.mapIds f)).schema.relations = result.relations := by
    have hmerged : (result.reconcile again (new.mapIds f)).schema.relations = mergeRelations
        (result.reconcile again (new.mapIds f)).schema.tables result.relations
        ((new.mapIds f).relations.map
          (mapEnds ((new.mapIds f).tables.zip (result.reconcile again (new.mapIds f)).schema.tables))) := rfl
    rw [hmerged, htables, hrelations]
    refine mergeRelations_again fun r hr => ?_
    obtain ⟨q, hq, rfl⟩ := List.mem_map.mp hr
    obtain ⟨s, hs, rfl⟩ := List.mem_map.mp hq
    obtain ⟨hsource, htarget⟩ := hends s hs
    exact ⟨_, List.mem_map_of_mem hs, mapEnds_mapIds hsame hf hsource htarget⟩
  generalize result.reconcile again (new.mapIds f) = second at htables hrenamed hkept
  obtain ⟨⟨tables, relations⟩, renamed⟩ := second
  obtain rfl : tables = result.tables := htables
  obtain rfl : relations = result.relations := hkept
  obtain rfl : renamed = [] := hrenamed
  rfl

/-- The identifiers of the second reading; here they go on behind those of the first one. -/
def laterIds : Id → Id
  | .named text => .named text
  | .fresh serial => .fresh (serial + 10)

/-- A table was renamed and a relation was turned around before the script was read twice. -/
theorem renamed_and_reversed_again :
    let old : Schema := {
      tables := [
        { id := .named "u", name := "users", columns := [{ id := .named "u1", name := "id" }] },
        { id := .named "o", name := "orders", columns := [{ id := .named "o1", name := "owner" }] }]
      relations := [{
        id := .named "r", sourceTableId := .named "o", sourceColumnId := .named "o1",
        targetTableId := .named "u", targetColumnId := .named "u1" }] }
    let new : Schema := {
      tables := [
        { id := .fresh 1, name := "people", columns := [{ id := .fresh 0, name := "ID" }] },
        { id := .fresh 3, name := "Orders", columns := [{ id := .fresh 2, name := "owner" }] }]
      relations := [{
        id := .fresh 4, sourceTableId := .fresh 1, sourceColumnId := .fresh 0,
        targetTableId := .fresh 3, targetColumnId := .fresh 2 }] }
    let names := ["users", "orders"]
    (old.ids ++ new.ids).Nodup ∧ (new.tables.map fun t => Text.lower t.name).Nodup ∧
      (∀ t ∈ new.tables, (t.columns.map fun c => Text.lower c.name).Nodup) ∧
      (∀ r ∈ new.relations, EndIn new r.source ∧ EndIn new r.target) ∧
      Set.InjOn laterIds {id | id ∈ new.ids} ∧
      (old.reconcile names new).schema.reconcile names (new.mapIds laterIds) =
        { schema := (old.reconcile names new).schema, renamed := [] } := by
  have hf (s : Set Id) : Set.InjOn laterIds s := by
    intro a _ b _ h
    cases a <;> cases b <;> simp_all [laterIds]
  refine ⟨by decide, by decide, by decide, ?_, hf _, ?_⟩
  · simp [EndIn, Schema.tableIds, Schema.columnIds, Relation.source, Relation.target]
  · exact reconcile_mapIds_again _ _ _ _ _ (by decide) (by decide) (by decide)
      (by simp [EndIn, Schema.tableIds, Schema.columnIds, Relation.source, Relation.target]) (hf _)

end Reconciliation

end SchemaDesk
