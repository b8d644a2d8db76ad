import Mathlib.Data.Finset.Card
import Mathlib.Data.List.Induction
import Mathlib.Data.List.Nodup
import Mathlib.Data.List.Perm.Basic
import Mathlib.Data.Sym.Sym2
import Mathlib.Tactic.Common
import SchemaDesk.Reconciliation

/-!
The relations after an edit: the old ones whose ends are still there, then those of the edited script
that connect other columns.

Where relations are added one by one, unless their ends are connected already, one relation of each pair of columns
stays, and no pair is lost. Which one stays depends on the order of the relations; how many stay does not.
-/

namespace SchemaDesk

/-- The column is there in the table of that identifier. Of several tables with one identifier the last
one counts. -/
def HasEndpoint (tables : List Table) (e : Endpoint) : Prop :=
  ∃ before t after, tables = before ++ t :: after ∧ t.id = e.table ∧
    (∀ u ∈ after, u.id ≠ e.table) ∧ ∃ c ∈ t.columns, c.id = e.column

theorem HasEndpoint.exists_mem {tables : List Table} {e : Endpoint} (h : HasEndpoint tables e) :
    ∃ t ∈ tables, t.id = e.table ∧ ∃ c ∈ t.columns, c.id = e.column := by
  obtain ⟨before, t, after, rfl, hid, -, hc⟩ := h
  exact ⟨t, by simp, hid, hc⟩

/-- If no two tables have the same identifier, an end is there as soon as one table has it. -/
theorem hasEndpoint_iff_of_nodup {tables : List Table} (hids : (tables.map (·.id)).Nodup)
    {e : Endpoint} :
    HasEndpoint tables e ↔ ∃ t ∈ tables, t.id = e.table ∧ ∃ c ∈ t.columns, c.id = e.column := by
  refine ⟨HasEndpoint.exists_mem, ?_⟩
  rintro ⟨t, ht, hid, hc⟩
  obtain ⟨before, after, rfl⟩ := List.append_of_mem ht
  refine ⟨before, t, after, rfl, hid, fun u hu huid => ?_, hc⟩
  rw [List.map_append, List.map_cons, List.nodup_append, List.nodup_cons] at hids
  exact hids.2.1.1 (List.mem_map.mpr ⟨u, hu, huid.trans hid.symm⟩)

namespace Relation

/-- Both ends of the relation are there. -/
def HasEnds (tables : List Table) (r : Relation) : Prop :=
  HasEndpoint tables r.source ∧ HasEndpoint tables r.target

/-- The relations connect the same two columns, in the same or in opposite directions. -/
def Connects (r s : Relation) : Prop :=
  (r.source = s.source ∧ r.target = s.target) ∨ (r.source = s.target ∧ r.target = s.source)

theorem sameEndpoints_iff {r s : Relation} : r.sameEndpoints s = true ↔ r.Connects s := by
  simp [sameEndpoints, Connects]

theorem Connects.refl (r : Relation) : r.Connects r := Or.inl ⟨rfl, rfl⟩

theorem Connects.symm {r s : Relation} (h : r.Connects s) : s.Connects r := by
  rcases h with ⟨hs, ht⟩ | ⟨hs, ht⟩
  · exact Or.inl ⟨hs.symm, ht.symm⟩
  · exact Or.inr ⟨ht.symm, hs.symm⟩

theorem existsIn_iff {r : Relation} {rs : List Relation} :
    r.existsIn rs = true ↔ ∃ s ∈ rs, s.Connects r := by
  simp [existsIn, sameEndpoints_iff]

end Relation

namespace Reconciliation

theorem find?_reverse_eq_some_iff {α : Type} {p : α → Bool} {xs : List α} {x : α} :
    xs.reverse.find? p = some x ↔
      p x ∧ ∃ before after, xs = before ++ x :: after ∧ ∀ y ∈ after, p y = false := by
  rw [List.find?_eq_some_iff_append]
  refine and_congr_right fun _ => ⟨?_, ?_⟩
  · rintro ⟨as, bs, hxs, has⟩
    refine ⟨bs.reverse, as.reverse, ?_, fun y hy => by simpa using has y (by simpa using hy)⟩
    simpa using congrArg List.reverse hxs
  · rintro ⟨before, after, rfl, hafter⟩
    exact ⟨after.reverse, before.reverse, by simp, fun y hy => by simpa using hafter y (by simpa using hy)⟩

/-- An end is there if the last table with its identifier has the column. -/
theorem hasEndpoint_iff {tables : List Table} {e : Endpoint} :
    (match tables.reverse.find? fun t => t.id == e.table with
      | some t => (t.column? e.column).isSome
      | none => false) = true ↔ HasEndpoint tables e := by
  constructor
  · intro h
    split at h
    · next t ht =>
      obtain ⟨hid, before, after, htables, hafter⟩ := find?_reverse_eq_some_iff.mp ht
      obtain ⟨c, hc, hcid⟩ : ∃ c ∈ t.columns, c.id = e.column := by
        simpa [Table.column?, List.find?_isSome] using h
      exact ⟨before, t, after, htables, by simpa using hid, fun u hu => by simpa using hafter u hu,
        c, hc, hcid⟩
    · cases h
  · rintro ⟨before, t, after, htables, hid, hafter, c, hc, hcid⟩
    have ht : tables.reverse.find? (fun t => t.id == e.table) = some t :=
      find?_reverse_eq_some_iff.mpr ⟨by simpa using hid, before, after, htables,
        fun u hu => by simpa using hafter u hu⟩
    rw [ht]
    simpa [Table.column?, List.find?_isSome] using ⟨c, hc, hcid⟩

theorem hasEnds_iff {tables : List Table} {r : Relation} :
    hasEnds tables r = true ↔ r.HasEnds tables := by
  rw [hasEnds, Bool.and_eq_true, Relation.HasEnds]
  exact and_congr hasEndpoint_iff hasEndpoint_iff

instance (tables : List Table) (r : Relation) : Decidable (r.HasEnds tables) :=
  decidable_of_iff _ hasEnds_iff

/-- What becomes of an identifier: its partner in the last pair that it begins, and itself if it begins
none. -/
def MapsTo (ids : List (Id × Id)) (a b : Id) : Prop :=
  (∃ before after, ids = before ++ (a, b) :: after ∧ ∀ p ∈ after, p.1 ≠ a) ∨
    ((∀ p ∈ ids, p.1 ≠ a) ∧ b = a)

theorem mapId_mapsTo (ids : List (Id × Id)) (a : Id) : MapsTo ids a (mapId ids a) := by
  rw [mapId]
  induction ids using List.reverseRecOn with
  | nil => exact Or.inr ⟨by simp, rfl⟩
  | append_singleton ids p ih =>
    obtain ⟨b, c⟩ := p
    rw [List.reverse_append, List.reverse_singleton, List.singleton_append, List.lookup_cons]
    by_cases hab : a = b
    · subst hab
      simp only [BEq.rfl, Option.getD_some]
      exact Or.inl ⟨ids, [], rfl, by simp⟩
    · have hbeq : (a == b) = false := by simpa using hab
      rw [hbeq]
      rcases ih with ⟨before, after, hids, hafter⟩ | ⟨hnone, hself⟩
      · have hsplit : ids ++ [(b, c)] =
            before ++ (a, (ids.reverse.lookup a).getD a) :: (after ++ [(b, c)]) := by
          rw [← List.cons_append, ← List.append_assoc, ← hids]
        refine Or.inl ⟨before, after ++ [(b, c)], hsplit, fun p hp => ?_⟩
        rcases List.mem_append.mp hp with hp | hp
        · exact hafter p hp
        · obtain rfl := List.mem_singleton.mp hp
          exact fun h => hab h.symm
      · refine Or.inr ⟨fun p hp => ?_, hself⟩
        rcases List.mem_append.mp hp with hp | hp
        · exact hnone p hp
        · obtain rfl := List.mem_singleton.mp hp
          exact fun h => hab h.symm

/-- A relation of the edited script with its ends in the merged tables. -/
structure EndsMapped (pairs : List (Table × Table)) (r s : Relation) : Prop where
  eq_but_ends : s = { r with
    sourceTableId := s.sourceTableId, sourceColumnId := s.sourceColumnId,
    targetTableId := s.targetTableId, targetColumnId := s.targetColumnId }
  sourceTable : MapsTo (tableIds pairs) r.sourceTableId s.sourceTableId
  sourceColumn : MapsTo (columnIds pairs) r.sourceColumnId s.sourceColumnId
  targetTable : MapsTo (tableIds pairs) r.targetTableId s.targetTableId
  targetColumn : MapsTo (columnIds pairs) r.targetColumnId s.targetColumnId

theorem mapEnds_endsMapped (pairs : List (Table × Table)) (r : Relation) :
    EndsMapped pairs r (mapEnds pairs r) :=
  ⟨rfl, mapId_mapsTo _ _, mapId_mapsTo _ _, mapId_mapsTo _ _, mapId_mapsTo _ _⟩

/-- What adding relations one by one makes of a list: all that is left out is connected already. -/
structure Extended (start more result : List Relation) : Prop where
  eq_append : ∃ added, result = start ++ added ∧ added.Sublist more
  covers : ∀ r ∈ more, ∃ s ∈ result, s.Connects r
  pairwise : start.Pairwise (fun r s => ¬ r.Connects s) → result.Pairwise fun r s => ¬ r.Connects s

theorem pairwise_concat_of_not_existsIn {rs : List Relation} {r : Relation}
    (hrs : rs.Pairwise fun r s => ¬ r.Connects s) (hr : ¬ r.existsIn rs = true) :
    (rs ++ [r]).Pairwise fun r s => ¬ r.Connects s := by
  rw [List.pairwise_append]
  refine ⟨hrs, List.pairwise_singleton _ _, fun s hs t ht hconnects => ?_⟩
  obtain rfl := List.mem_singleton.mp ht
  exact hr (Relation.existsIn_iff.mpr ⟨s, hs, hconnects⟩)

theorem foldl_addTo_extended (more : List Relation) :
    ∀ start, Extended start more (more.foldl (fun rs r => r.addTo rs) start) := by
  induction more with
  | nil => exact fun start => ⟨⟨[], by simp, .slnil⟩, by simp, id⟩
  | cons r more ih =>
    intro start
    rw [List.foldl_cons]
    by_cases hr : r.existsIn start = true
    · have hadd : r.addTo start = start := by simp [Relation.addTo, hr]
      rw [hadd]
      obtain ⟨⟨added, heq, hsub⟩, hcovers, hpairwise⟩ := ih start
      refine ⟨⟨added, heq, hsub.cons r⟩, fun s hs => ?_, hpairwise⟩
      rcases List.mem_cons.mp hs with rfl | hs
      · obtain ⟨t, ht, hconnects⟩ := Relation.existsIn_iff.mp hr
        exact ⟨t, heq ▸ List.mem_append_left added ht, hconnects⟩
      · exact hcovers s hs
    · have hadd : r.addTo start = start ++ [r] := by simp [Relation.addTo, hr]
      rw [hadd]
      obtain ⟨⟨added, heq, hsub⟩, hcovers, hpairwise⟩ := ih (start ++ [r])
      refine ⟨⟨r :: added, by simpa using heq, hsub.cons_cons r⟩, fun s hs => ?_, fun hstart => ?_⟩
      · rcases List.mem_cons.mp hs with rfl | hs
        · exact ⟨s, by rw [heq]; simp, Relation.Connects.refl s⟩
        · exact hcovers s hs
      · exact hpairwise (pairwise_concat_of_not_existsIn hstart hr)

/-- Only relations between columns that are there are merged. -/
theorem hasEnds_of_mem_mergeRelations {tables : List Table} {old new : List Relation} {r : Relation}
    (hr : r ∈ mergeRelations tables old new) : r.HasEnds tables := by
  obtain ⟨added, heq, hsub⟩ := (foldl_addTo_extended (new.filter (hasEnds tables))
    (old.filter (hasEnds tables))).eq_append
  rw [mergeRelations, heq] at hr
  rcases List.mem_append.mp hr with hr | hr
  · exact hasEnds_iff.mp (List.mem_filter.mp hr).2
  · exact hasEnds_iff.mp (List.mem_filter.mp (hsub.subset hr)).2

/-- The outcome of an edit for the relations. -/
structure RelationsCarried (old new result : Schema) : Prop where
  ends_exist : ∀ r ∈ result.relations, ∀ e, e = r.source ∨ e = r.target →
    ∃ t ∈ result.tables, t.id = e.table ∧ ∃ c ∈ t.columns, c.id = e.column
  kept_then_added : ∃ mapped added,
    List.Forall₂ (EndsMapped (new.tables.zip result.tables)) new.relations mapped ∧
      added.Sublist mapped ∧
      result.relations = old.relations.filter (·.HasEnds result.tables) ++ added ∧
      ∀ r ∈ mapped, r.HasEnds result.tables → ∃ s ∈ result.relations, s.Connects r
  connects_once : old.relations.Pairwise (fun r s => ¬ r.Connects s) →
    result.relations.Pairwise fun r s => ¬ r.Connects s

theorem filter_hasEnds (tables : List Table) (rs : List Relation) :
    rs.filter (hasEnds tables) = rs.filter (·.HasEnds tables) :=
  List.filter_congr fun r _ => by rw [Bool.eq_iff_iff, hasEnds_iff, decide_eq_true_iff]

/-- Relations survive an edit without loss, repetition or loose ends, whatever the schemas are. -/
theorem relationsCarried_reconcile (old new : Schema) (names : List String) :
    RelationsCarried old new (old.reconcile names new).schema := by
  generalize hresult : (old.reconcile names new).schema = result
  obtain ⟨pairs, hpairs⟩ : ∃ pairs, pairs = new.tables.zip result.tables := ⟨_, rfl⟩
  have hrelations : result.relations =
      ((new.relations.map (mapEnds pairs)).filter (·.HasEnds result.tables)).foldl
        (fun rs r => r.addTo rs) (old.relations.filter (·.HasEnds result.tables)) := by
    rw [hpairs, ← filter_hasEnds, ← filter_hasEnds, ← hresult]
    rfl
  have hextended := foldl_addTo_extended
    ((new.relations.map (mapEnds pairs)).filter (·.HasEnds result.tables))
    (old.relations.filter (·.HasEnds result.tables))
  rw [← hrelations] at hextended
  obtain ⟨⟨added, heq, hsub⟩, hcovers, hpairwise⟩ := hextended
  constructor
  case ends_exist =>
    intro r hr e he
    have hends : r.HasEnds result.tables := by
      rw [heq] at hr
      rcases List.mem_append.mp hr with hr | hr
      · simpa using (List.mem_filter.mp hr).2
      · simpa using (List.mem_filter.mp (hsub.subset hr)).2
    rcases he with rfl | rfl
    · exact hends.1.exists_mem
    · exact hends.2.exists_mem
  case kept_then_added =>
    refine ⟨new.relations.map (mapEnds pairs), added, ?_, hsub.trans List.filter_sublist, heq,
      fun r hr hends => hcovers r (List.mem_filter.mpr ⟨hr, by simpa using hends⟩)⟩
    rw [← hpairs, List.forall₂_map_right_iff, List.forall₂_same]
    exact fun r _ => mapEnds_endsMapped pairs r
  case connects_once =>
    exact fun hold => hpairwise (hold.filter _)

/-- Of two tables with one identifier only the last one counts, so that a relation at a column of the
other one is lost. -/
theorem relation_lost_at_repeated_id :
    let r : Relation := {
      id := .named "r", sourceTableId := .named "t", sourceColumnId := .named "a",
      targetTableId := .named "t", targetColumnId := .named "a" }
    let new : Schema := { tables := [
      { id := .named "t", name := "x", columns := [{ id := .named "a", name := "a" }] },
      { id := .named "t", name := "y", columns := [{ id := .named "b", name := "b" }] }] }
    let result := (Schema.reconcile { relations := [r] } [] new).schema
    (∃ t ∈ result.tables, t.id = r.source.table ∧ ∃ c ∈ t.columns, c.id = r.source.column) ∧
      (∃ t ∈ result.tables, t.id = r.target.table ∧ ∃ c ∈ t.columns, c.id = r.target.column) ∧
      r ∉ result.relations := by
  decide

end Reconciliation

/-! ### Pairs of columns -/

namespace Relation

variable {r s : Relation} {rs more kept : List Relation}

/-- The two ends of the relation, without an order. -/
def pair (r : Relation) : Sym2 Endpoint := s(r.source, r.target)

theorem connects_iff_pair_eq : r.Connects s ↔ r.pair = s.pair := by
  rw [pair, pair, Sym2.eq_iff, Connects]

theorem sameEndpoints_iff_pair_eq : r.sameEndpoints s = true ↔ r.pair = s.pair := by
  rw [sameEndpoints_iff, connects_iff_pair_eq]

/-- The list has each pair of the given relations once, and no other pair. -/
structure OnePerPair (rs kept : List Relation) : Prop where
  distinct : kept.Pairwise fun r s => r.pair ≠ s.pair
  covers : ∀ p, p ∈ kept.map pair ↔ p ∈ rs.map pair

/-- The list is as long as there are different pairs. -/
theorem OnePerPair.length_eq (h : OnePerPair rs kept) : kept.length = (rs.map pair).toFinset.card := by
  have hnodup : (kept.map pair).Nodup := List.pairwise_map.mpr h.distinct
  have hpairs : (kept.map pair).toFinset = (rs.map pair).toFinset := by
    ext p
    rw [List.mem_toFinset, List.mem_toFinset, h.covers p]
  rw [← hpairs, List.toFinset_card_of_nodup hnodup, List.length_map]

theorem OnePerPair.perm (h : OnePerPair more kept) (hperm : more.Perm rs) : OnePerPair rs kept where
  distinct := h.distinct
  covers p := (h.covers p).trans (hperm.map pair).mem_iff

/-- The relations that stay when all are added one by one. -/
def firstOfPairs (rs : List Relation) : List Relation := rs.foldl (fun kept r => r.addTo kept) []

theorem extended_firstOfPairs (rs : List Relation) : Reconciliation.Extended [] rs (firstOfPairs rs) :=
  Reconciliation.foldl_addTo_extended rs []

theorem firstOfPairs_sublist (rs : List Relation) : (firstOfPairs rs).Sublist rs := by
  obtain ⟨added, heq, hsub⟩ := (extended_firstOfPairs rs).eq_append
  rwa [heq, List.nil_append]

theorem onePerPair_firstOfPairs (rs : List Relation) : OnePerPair rs (firstOfPairs rs) := by
  constructor
  case distinct =>
    have hpairwise := (extended_firstOfPairs rs).pairwise List.Pairwise.nil
    exact hpairwise.imp fun hconnects heq => hconnects (connects_iff_pair_eq.mpr heq)
  case covers =>
    intro p
    refine ⟨fun hp => ((firstOfPairs_sublist rs).map pair).subset hp, fun hp => ?_⟩
    obtain ⟨r, hr, rfl⟩ := List.mem_map.mp hp
    obtain ⟨s, hs, hconnects⟩ := (extended_firstOfPairs rs).covers r hr
    exact List.mem_map.mpr ⟨s, hs, connects_iff_pair_eq.mp hconnects⟩

theorem equivalence_sameEndpoints : Equivalence fun r s : Relation => r.sameEndpoints s = true := by
  simp only [sameEndpoints_iff_pair_eq]
  exact ⟨fun r => rfl, fun h => h.symm, fun h h' => h.trans h'⟩

/-- To connect the same columns is an equivalence, equality of unordered pairs. So a list that is built by adding
relations one by one, unless their ends are connected, has each pair of them once, and in whatever order they are
added, it has the same pairs and the same length. -/
theorem firstOfPairs_keeps_pairs :
    (Equivalence fun r s : Relation => r.sameEndpoints s = true) ∧
      (∀ r s : Relation, r.sameEndpoints s = true ↔ s(r.source, r.target) = s(s.source, s.target)) ∧
      ∀ rs : List Relation, (firstOfPairs rs).Sublist rs ∧ OnePerPair rs (firstOfPairs rs) ∧
        ∀ more : List Relation, more.Perm rs →
          OnePerPair rs (firstOfPairs more) ∧ (firstOfPairs more).length = (firstOfPairs rs).length := by
  refine ⟨equivalence_sameEndpoints, fun r s => sameEndpoints_iff_pair_eq, fun rs => ?_⟩
  refine ⟨firstOfPairs_sublist rs, onePerPair_firstOfPairs rs, fun more hperm => ?_⟩
  have hmore : OnePerPair rs (firstOfPairs more) := (onePerPair_firstOfPairs more).perm hperm
  exact ⟨hmore, hmore.length_eq.trans (onePerPair_firstOfPairs rs).length_eq.symm⟩

/-- A relation between two columns of one table. -/
def within (id source target : String) : Relation :=
  { id := .named id
    sourceTableId := .named "t"
    sourceColumnId := .named source
    targetTableId := .named "t"
    targetColumnId := .named target }

/-- Two columns that are connected in both directions, and a column that is connected with itself. -/
theorem firstOfPairs_keeps_pairs_loop :
    [within "q" "c" "c", within "s" "b" "a", within "r" "a" "b"].Perm
        [within "r" "a" "b", within "s" "b" "a", within "q" "c" "c"] ∧
      firstOfPairs [within "r" "a" "b", within "s" "b" "a", within "q" "c" "c"] =
        [within "r" "a" "b", within "q" "c" "c"] ∧
      OnePerPair [within "r" "a" "b", within "s" "b" "a", within "q" "c" "c"]
        (firstOfPairs [within "q" "c" "c", within "s" "b" "a", within "r" "a" "b"]) := by
  have hperm : [within "q" "c" "c", within "s" "b" "a", within "r" "a" "b"].Perm
      [within "r" "a" "b", within "s" "b" "a", within "q" "c" "c"] := by decide
  obtain ⟨-, hmore⟩ := (firstOfPairs_keeps_pairs.2.2 _).2
  exact ⟨hperm, by decide, (hmore _ hperm).1⟩

end Relation

end SchemaDesk
