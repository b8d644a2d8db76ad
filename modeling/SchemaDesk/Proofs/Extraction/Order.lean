import Mathlib.Data.Sym.Sym2
import SchemaDesk.Proofs.Extraction.Content
import SchemaDesk.Proofs.Extraction.WellFormed

/-!
The order of the statements does not matter for the schema. Another order gives the same tables under
other identifiers, and its foreign keys connect the same columns.
-/

namespace SchemaDesk

def Endpoint.mapIds (f : Id → Id) (e : Endpoint) : Endpoint := ⟨f e.table, f e.column⟩

/-- The pairs of columns that some relation connects, in whatever direction. -/
def Schema.connected (s : Schema) : Set (Sym2 Endpoint) :=
  {e | ∃ r ∈ s.relations, e = s(r.source, r.target)}

/-- The second schema has the tables of the first one, in some order and under other identifiers, and
its relations connect the same pairs of columns. -/
def Schema.SameContent (s s' : Schema) : Prop :=
  ∃ f : Id → Id, Set.InjOn f {id | id ∈ s.tableIds ++ s.columnIds} ∧
    s'.tables.Perm (s.tables.map (Table.mapIds f)) ∧
    s'.connected = Sym2.map (Endpoint.mapIds f) '' s.connected

theorem Relation.connects_iff {r q : Relation} :
    r.Connects q ↔ s(r.source, r.target) = s(q.source, q.target) := by
  simp [Connects]

namespace Extraction

/-! ### Foreign keys of renamed and reordered sources -/

/-- The foreign key has these two ends. -/
def Joins (sources : List TableSource) (key : TableSource × ForeignKey) (e d : Endpoint) : Prop :=
  ∃ q, IsRelationOf sources key q ∧ q.source = e ∧ q.target = d

theorem joins_iff {sources : List TableSource} {key : TableSource × ForeignKey} {e d : Endpoint} :
    Joins sources key e d ↔ ∃ c target b, key.1.table.findColumn? key.2.column = some c ∧
      findSource? sources key.2.targetTable = some target ∧
      target.table.findColumn? key.2.targetColumn = some b ∧
      e = ⟨key.1.table.id, c.id⟩ ∧ d = ⟨target.table.id, b.id⟩ := by
  constructor
  · rintro ⟨q, ⟨n, hq⟩, rfl, rfl⟩
    obtain ⟨c, target, b, hc, htarget, hb, rfl⟩ := relation?_eq_some_iff.mp hq
    exact ⟨c, target, b, hc, htarget, hb, rfl, rfl⟩
  · rintro ⟨c, target, b, hc, htarget, hb, rfl, rfl⟩
    exact ⟨_, ⟨0, relation?_eq_some_iff.mpr ⟨c, target, b, hc, htarget, hb, rfl⟩⟩, rfl, rfl⟩

def HasDistinctNames (sources : List TableSource) : Prop :=
  (sources.map fun s => Text.lower s.table.name).Nodup

theorem findSource?_eq_some_iff {sources : List TableSource} (h : HasDistinctNames sources)
    {name : String} {s : TableSource} :
    findSource? sources name = some s ↔ s ∈ sources ∧ Text.lower s.table.name = Text.lower name := by
  induction sources with
  | nil => simp [findSource?]
  | cons t sources ih =>
    rw [HasDistinctNames, List.map_cons, List.nodup_cons] at h
    by_cases hname : Text.lower t.table.name = Text.lower name
    · have hother : ∀ u ∈ sources, Text.lower u.table.name ≠ Text.lower name :=
        fun u hu heq => h.1 (List.mem_map.mpr ⟨u, hu, heq.trans hname.symm⟩)
      rw [findSource?, List.find?_cons_of_pos (by simpa [Text.sameName] using hname), Option.some.injEq]
      constructor
      · rintro rfl
        exact ⟨by simp, hname⟩
      · rintro ⟨hs, heq⟩
        exact ((List.mem_cons.mp hs).resolve_right fun hs => hother s hs heq).symm
    · rw [findSource?, List.find?_cons_of_neg (by simpa [Text.sameName] using hname)]
      refine (ih h.2).trans (and_congr_left fun heq => ?_)
      rw [List.mem_cons, or_iff_right]
      rintro rfl
      exact hname heq

theorem findSource?_perm {ss ts : List TableSource} (h : HasDistinctNames ss) (hperm : ts.Perm ss)
    (name : String) : findSource? ts name = findSource? ss name := by
  have ht : HasDistinctNames ts := (hperm.map _).nodup_iff.mpr h
  refine Option.ext fun s => ?_
  rw [findSource?_eq_some_iff ht, findSource?_eq_some_iff h, hperm.mem_iff]

theorem findColumn?_mapIds (f : Id → Id) (t : Table) (name : String) :
    (t.mapIds f).findColumn? name = (t.findColumn? name).map (Column.mapIds f) := by
  rw [Table.findColumn?, Table.mapIds, List.find?_map]
  rfl

theorem mem_alteredKeys {sources : List TableSource} {v : Value} {key : TableSource × ForeignKey} :
    key ∈ alteredKeys sources v ↔ altersTable v = true ∧
      findSource? sources ((tableName? v).getD "") = some key.1 ∧
      key.2 ∈ (v.get "expr").asList.filterMap addedKey? := by
  obtain ⟨s, k⟩ := key
  unfold alteredKeys
  split
  · next halters =>
    split
    · next hnone => simp [hnone]
    · next t ht => simp only [ht, halters, List.mem_map, Prod.mk.injEq, Option.some.injEq, true_and]; grind
  · next halters => simp [halters]

theorem mem_foreignKeys {sources : List TableSource} {vs : List Value} {key : TableSource × ForeignKey} :
    key ∈ foreignKeys sources vs ↔ (key.1 ∈ sources ∧ key.2 ∈ ownKeys key.1) ∨
      ∃ v ∈ vs, altersTable v = true ∧ findSource? sources ((tableName? v).getD "") = some key.1 ∧
        key.2 ∈ (v.get "expr").asList.filterMap addedKey? := by
  obtain ⟨s, k⟩ := key
  have hown : (s, k) ∈ (sources.flatMap fun s => (ownKeys s).map fun k => (s, k)) ↔
      s ∈ sources ∧ k ∈ ownKeys s := by
    simp [List.mem_flatMap]
  simp only [foreignKeys, List.mem_append, hown, List.mem_flatMap, mem_alteredKeys]

section Renamed

variable {ss ts : List TableSource} {vs ws : List Value} {f : Id → Id}

theorem findSource?_renamed (hnames : HasDistinctNames ss)
    (hperm : ts.Perm (ss.map (TableSource.mapIds f))) (name : String) :
    findSource? ts name = (findSource? ss name).map (TableSource.mapIds f) := by
  have hmapped : HasDistinctNames (ss.map (TableSource.mapIds f)) := by
    rw [HasDistinctNames, List.map_map]
    exact hnames
  rw [findSource?_perm hmapped hperm, findSource?, List.find?_map]
  rfl

/-- The foreign keys are the same ones, of the renamed tables. -/
theorem mem_foreignKeys_renamed (hnames : HasDistinctNames ss)
    (hperm : ts.Perm (ss.map (TableSource.mapIds f))) (hvs : vs.Perm ws)
    {key : TableSource × ForeignKey} :
    key ∈ foreignKeys ts ws ↔ ∃ s k, (s, k) ∈ foreignKeys ss vs ∧ key = (s.mapIds f, k) := by
  obtain ⟨t, k⟩ := key
  simp only [mem_foreignKeys, findSource?_renamed hnames hperm, Option.map_eq_some_iff, hperm.mem_iff,
    List.mem_map, Prod.mk.injEq]
  constructor
  · rintro (⟨⟨s, hs, rfl⟩, hk⟩ | ⟨v, hv, halters, ⟨s, hs, rfl⟩, hk⟩)
    · exact ⟨s, k, Or.inl ⟨hs, hk⟩, rfl, rfl⟩
    · exact ⟨s, k, Or.inr ⟨v, hvs.mem_iff.mpr hv, halters, hs, hk⟩, rfl, rfl⟩
  · rintro ⟨s, k, ⟨hs, hk⟩ | ⟨v, hv, halters, hs, hk⟩, rfl, rfl⟩
    · exact Or.inl ⟨⟨s, hs, rfl⟩, hk⟩
    · exact Or.inr ⟨v, hvs.mem_iff.mp hv, halters, ⟨s, hs, rfl⟩, hk⟩

theorem joins_renamed (hnames : HasDistinctNames ss) (hperm : ts.Perm (ss.map (TableSource.mapIds f)))
    {s : TableSource} {k : ForeignKey} {e d : Endpoint} :
    Joins ts (s.mapIds f, k) e d ↔
      ∃ e' d', Joins ss (s, k) e' d' ∧ e = e'.mapIds f ∧ d = d'.mapIds f := by
  have hcolumn (s : TableSource) (name : String) :
      (s.mapIds f).table.findColumn? name = (s.table.findColumn? name).map (Column.mapIds f) :=
    findColumn?_mapIds f s.table name
  simp only [joins_iff, findSource?_renamed hnames hperm, hcolumn, Option.map_eq_some_iff]
  constructor
  · rintro ⟨_, _, _, ⟨c, hc, rfl⟩, ⟨target, htarget, rfl⟩, hb, rfl, rfl⟩
    rw [hcolumn, Option.map_eq_some_iff] at hb
    obtain ⟨b, hb, rfl⟩ := hb
    exact ⟨_, _, ⟨c, target, b, hc, htarget, hb, rfl, rfl⟩, rfl, rfl⟩
  · rintro ⟨_, _, ⟨c, target, b, hc, htarget, hb, rfl, rfl⟩, rfl, rfl⟩
    exact ⟨_, _, b.mapIds f, ⟨c, hc, rfl⟩, ⟨target, htarget, rfl⟩, by rw [hcolumn, hb]; rfl, rfl, rfl⟩

end Renamed

/-! ### The order of statements -/

theorem Represented.connected_eq {sources : List TableSource} {keys : List (TableSource × ForeignKey)}
    {s : Schema} (h : Represented sources keys s.relations) :
    s.connected = {p | ∃ key ∈ keys, ∃ e d, Joins sources key e d ∧ p = s(e, d)} := by
  ext p
  constructor
  · rintro ⟨r, hr, rfl⟩
    obtain ⟨before, key, after, rfl, hkey, -⟩ := h.first r hr
    exact ⟨key, by simp, _, _, ⟨r, hkey, rfl, rfl⟩, rfl⟩
  · rintro ⟨key, hkey, e, d, ⟨q, hq, rfl, rfl⟩, rfl⟩
    obtain ⟨r, hr, hconnects⟩ := h.each key hkey q hq
    exact ⟨r, hr, (Relation.connects_iff.mp hconnects).symm⟩

theorem connected_renamed {ss ts : List TableSource} {vs ws : List Value} {f : Id → Id} {s s' : Schema}
    (hnames : HasDistinctNames ss) (hperm : ts.Perm (ss.map (TableSource.mapIds f))) (hvs : vs.Perm ws)
    (hs : Represented ss (foreignKeys ss vs) s.relations)
    (hs' : Represented ts (foreignKeys ts ws) s'.relations) :
    s'.connected = Sym2.map (Endpoint.mapIds f) '' s.connected := by
  rw [hs.connected_eq, hs'.connected_eq]
  ext p
  constructor
  · rintro ⟨key, hkey, e, d, hjoins, rfl⟩
    obtain ⟨t, k, hold, rfl⟩ := (mem_foreignKeys_renamed hnames hperm hvs).mp hkey
    obtain ⟨e', d', hends, rfl, rfl⟩ := (joins_renamed hnames hperm).mp hjoins
    exact ⟨s(e', d'), ⟨_, hold, e', d', hends, rfl⟩, rfl⟩
  · rintro ⟨_, ⟨⟨t, k⟩, hkey, e, d, hjoins, rfl⟩, rfl⟩
    exact ⟨_, (mem_foreignKeys_renamed hnames hperm hvs).mpr ⟨t, k, hkey, rfl⟩, _, _,
      (joins_renamed hnames hperm).mpr ⟨e, d, hjoins, rfl, rfl⟩, rfl⟩

/-- One relation alone connects the ends of `q`. It is the one of the first foreign key that has these
ends. -/
def RepresentedOnce (sources : List TableSource) (keys : List (TableSource × ForeignKey))
    (rs : List Relation) (q : Relation) : Prop :=
  ∃ r before key after, rs.filter (fun r => r.sameEndpoints q) = [r] ∧ keys = before ++ key :: after ∧
    IsRelationOf sources key r ∧ ∀ k ∈ before, ∀ p, IsRelationOf sources k p → ¬ p.Connects q

theorem filter_sameEndpoints_eq {rs : List Relation} (h : rs.Pairwise fun r s => ¬ r.Connects s)
    {r q : Relation} (hr : r ∈ rs) (hconnects : r.Connects q) :
    rs.filter (fun r => r.sameEndpoints q) = [r] := by
  induction rs with
  | nil => cases hr
  | cons s rs ih =>
    rw [List.pairwise_cons] at h
    rcases List.mem_cons.mp hr with rfl | hr
    · have hnone : rs.filter (fun r => r.sameEndpoints q) = [] := by
        refine List.filter_eq_nil_iff.mpr fun t ht htq => ?_
        exact h.1 t ht (hconnects.trans (Relation.sameEndpoints_iff.mp htq).symm)
      rw [List.filter_cons, if_pos (Relation.sameEndpoints_iff.mpr hconnects), hnone]
    · rw [List.filter_cons_of_neg, ih h.2 hr]
      intro hs
      exact h.1 r hr ((Relation.sameEndpoints_iff.mp hs).trans hconnects.symm)

theorem Represented.representedOnce {sources : List TableSource} {keys : List (TableSource × ForeignKey)}
    {rs : List Relation} (h : Represented sources keys rs) {key : TableSource × ForeignKey}
    (hkey : key ∈ keys) {q : Relation} (hq : IsRelationOf sources key q) :
    RepresentedOnce sources keys rs q := by
  obtain ⟨r, hr, hconnects⟩ := h.each key hkey q hq
  obtain ⟨before, first, after, hkeys, hfirst, hbefore⟩ := h.first r hr
  refine ⟨r, before, first, after, filter_sameEndpoints_eq h.once hr hconnects, hkeys, hfirst, ?_⟩
  exact fun k hk p hp hpq => hbefore k hk p hp (hpq.trans hconnects.symm)

/-- If no two statements create the same table, their order matters neither for the tables nor for the
columns that are connected. Every foreign key with two ends is represented once, by the first of those
that have these ends. -/
theorem ofStatements_perm {serial next : Nat} {vs ws : List Value} {s : Schema} (serial' : Nat)
    (hperm : vs.Perm ws) (hnames : ((createdNames vs).map Text.lower).Nodup)
    (h : Schema.ofStatements serial vs = .ok (s, next)) :
    (∃ s' next', Schema.ofStatements serial' ws = .ok (s', next') ∧ s.SameContent s') ∧
      ∃ sources middle, sourcesFrom serial [] vs = .ok (sources, middle) ∧
        s.tables = sources.map (·.table) ∧
        ∀ key ∈ foreignKeys sources vs, ∀ q, IsRelationOf sources key q →
          RepresentedOnce sources (foreignKeys sources vs) s.relations q := by
  obtain ⟨sources, middle, hsources, htables, hrepresented⟩ := ofStatements_eq_ok h
  refine ⟨?_, sources, middle, hsources, htables, fun key hkey q hq => hrepresented.representedOnce hkey hq⟩
  obtain ⟨ss, hmade, hss⟩ := (sourcesFrom_eq_ok_iff (by simpa using hnames)).mp hsources
  obtain rfl : sources = ss := hss
  have hcreations : (creations vs).Perm (creations ws) := hperm.filterMap _
  obtain ⟨ts, middle', hmade', hcontents⟩ := hmade.perm hcreations serial'
  have hnames' : ((createdNames ws).map Text.lower).Nodup :=
    ((hperm.filterMap _).map _).nodup_iff.mp hnames
  have hsources' : sourcesFrom serial' [] ws = .ok (ts, middle') :=
    (sourcesFrom_eq_ok_iff (by simpa using hnames')).mpr ⟨ts, hmade', rfl⟩
  obtain ⟨s', next', hread⟩ : ∃ s' next', Schema.ofStatements serial' ws = .ok (s', next') := by
    rw [Schema.ofStatements, hsources']
    exact ⟨_, _, rfl⟩
  obtain ⟨found, middle'', hfound, htables', hrepresented'⟩ := ofStatements_eq_ok hread
  obtain ⟨rfl, rfl⟩ := Prod.mk.inj (Except.ok.inj (hfound.symm.trans hsources'))
  obtain ⟨f, hf, hts⟩ := exists_renaming hcontents (nodup_sourceIds hsources) (nodup_sourceIds hsources')
  have hdistinct : HasDistinctNames sources := (sourcesFrom_found hsources).names .nil
  refine ⟨s', next', hread, f, hf.mono fun id hid => ?_, ?_,
    connected_renamed hdistinct hts hperm hrepresented hrepresented'⟩
  · have hid : id ∈ s.tableIds ++ s.columnIds := hid
    rw [Schema.tableIds, Schema.columnIds, htables] at hid
    exact (ids_perm sources).mem_iff.mpr hid
  · rw [htables, htables', List.map_map]
    have htable : (fun u => u.table) ∘ TableSource.mapIds f = Table.mapIds f ∘ fun u => u.table := rfl
    rw [← htable, ← List.map_map]
    exact hts.map _

theorem ordersAndUsers_reversed :
    ((createdNames ordersAndUsers).map Text.lower).Nodup ∧
      ∃ s next, Schema.ofStatements 0 ordersAndUsers = .ok (s, next) ∧
        (∃ s' next', Schema.ofStatements 7 ordersAndUsers.reverse = .ok (s', next') ∧ s.SameContent s') ∧
        ∃ sources middle, sourcesFrom 0 [] ordersAndUsers = .ok (sources, middle) ∧
          s.tables = sources.map (·.table) ∧
          ∀ key ∈ foreignKeys sources ordersAndUsers, ∀ q, IsRelationOf sources key q →
            RepresentedOnce sources (foreignKeys sources ordersAndUsers) s.relations q := by
  have hnames : ((createdNames ordersAndUsers).map Text.lower).Nodup := by decide +kernel
  exact ⟨hnames, _, _, rfl, ofStatements_perm 7 (List.reverse_perm _).symm hnames rfl⟩

end Extraction

end SchemaDesk
