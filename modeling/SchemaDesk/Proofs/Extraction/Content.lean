import Mathlib.Data.List.GetD
import Mathlib.Data.List.Nodup
import Mathlib.Data.List.Perm.Basic
import Mathlib.Data.Set.Function
import SchemaDesk.Proofs.Extraction.Sources

/-!
What a statement says about its table does not depend on the identifiers that are used up before it, so
that statements with different names may come in any order.
-/

namespace SchemaDesk

def TableSource.mapIds (f : Id → Id) (s : TableSource) : TableSource :=
  { s with table := s.table.mapIds f }

namespace Extraction

/-! ### Sources without identifiers -/

/-- The source with one and the same identifier everywhere. -/
def withoutIds (s : TableSource) : TableSource := s.mapIds fun _ => .fresh 0

/-- What a statement gives for a name, identifiers left out. -/
def content (x : String × Value) : Except Failure (Option TableSource) :=
  (source? 0 x.1 x.2).map fun found => found.map fun p => withoutIds p.1

theorem map_changeColumn {change : Column → Column} {f : Id → Id}
    (hchange : ∀ c, (change c).mapIds f = change (c.mapIds f)) (name : String) (cs : List Column) :
    (changeColumn name change cs).map (Column.mapIds f) =
      changeColumn name change (cs.map (Column.mapIds f)) := by
  induction cs with
  | nil => rfl
  | cons c cs ih =>
    have hname : (c.mapIds f).name = c.name := rfl
    rw [changeColumn, List.map_cons, changeColumn, hname]
    split
    · rw [List.map_cons, hchange]
    · rw [List.map_cons, ih]

theorem map_foldl {α : Type} {f : Id → Id} {step : List Column → α → List Column}
    (hstep : ∀ cs a, (step cs a).map (Column.mapIds f) = step (cs.map (Column.mapIds f)) a) (as : List α) :
    ∀ cs, (as.foldl step cs).map (Column.mapIds f) = as.foldl step (cs.map (Column.mapIds f)) := by
  induction as with
  | nil => exact fun _ => rfl
  | cons a as ih =>
    intro cs
    rw [List.foldl_cons, List.foldl_cons, ih, hstep]

theorem map_applyConstraints (f : Id → Id) (cs : List Column) (ks : List TableConstraint) :
    (applyConstraints cs ks).map (Column.mapIds f) = applyConstraints (cs.map (Column.mapIds f)) ks := by
  have hkey (c : Column) : (markKey c).mapIds f = markKey (c.mapIds f) := rfl
  have hunique (c : Column) : (markUnique c).mapIds f = markUnique (c.mapIds f) := rfl
  refine map_foldl (fun cs k => ?_) ks cs
  unfold applyConstraint
  split
  · exact map_foldl (fun cs name => map_changeColumn hkey name cs) _ cs
  · exact map_foldl (fun cs name => map_changeColumn hunique name cs) _ cs
  · rfl

theorem map_columns (ds : List ColumnDefinition) : ∀ n m,
    (columns n ds).map (Column.mapIds fun _ => .fresh 0) =
      (columns m ds).map (Column.mapIds fun _ => .fresh 0) := by
  induction ds with
  | nil => exact fun _ _ => rfl
  | cons d ds ih =>
    intro n m
    rw [columns, columns, List.map_cons, List.map_cons, ih (n + 1) (m + 1)]
    rfl

theorem map_source?_eq_content (serial : Nat) (x : String × Value) :
    ((source? serial x.1 x.2).map fun found => found.map fun p => withoutIds p.1) = content x := by
  rw [content, source?, source?]
  cases definitions (columnDescriptions x.2) with
  | error e => rfl
  | ok ds =>
    simp only [Except.map]
    split
    · rfl
    · simp only [Option.map_some, withoutIds, TableSource.mapIds, Table.mapIds, map_applyConstraints,
        map_columns ds serial 0]

theorem content_of_source? {serial next : Nat} {x : String × Value} {s : TableSource}
    (h : source? serial x.1 x.2 = .ok (some (s, next))) : content x = .ok (some (withoutIds s)) := by
  rw [← map_source?_eq_content serial x, h]
  rfl

theorem content_of_source?_none {serial : Nat} {x : String × Value}
    (h : source? serial x.1 x.2 = .ok none) : content x = .ok none := by
  rw [← map_source?_eq_content serial x, h]
  rfl

/-! ### Statements with different names -/

/-- The name of the table that a statement creates. -/
def createdName? (v : Value) : Option String := if createsTable v then tableName? v else none

/-- The names of the tables that the statements create. -/
def createdNames (vs : List Value) : List String := vs.filterMap createdName?

/-- The statements that create a table, with its name. -/
def creations (vs : List Value) : List (String × Value) :=
  vs.filterMap fun v => (createdName? v).map fun name => (name, v)

theorem map_fst_creations (vs : List Value) : (creations vs).map Prod.fst = createdNames vs := by
  rw [creations, createdNames, List.map_filterMap]
  refine List.filterMap_congr fun v _ => ?_
  cases createdName? v <;> rfl

/-- The sources of all statements in turn. -/
inductive Made : Nat → List (String × Value) → List TableSource → Nat → Prop
  | nil (serial : Nat) : Made serial [] [] serial
  | skip {serial next : Nat} {x : String × Value} {xs : List (String × Value)} {ss : List TableSource}
      (hx : source? serial x.1 x.2 = .ok none) (h : Made serial xs ss next) : Made serial (x :: xs) ss next
  | cons {serial middle next : Nat} {x : String × Value} {xs : List (String × Value)} {s : TableSource}
      {ss : List TableSource} (hx : source? serial x.1 x.2 = .ok (some (s, middle)))
      (h : Made middle xs ss next) : Made serial (x :: xs) (s :: ss) next

/-- If no two statements create the same table, the search makes a source of each one. -/
theorem sourcesFrom_eq_ok_iff {vs : List Value} {next : Nat} {found' : List TableSource} :
    ∀ {serial : Nat} {found : List TableSource},
      (found.map (fun s => Text.lower s.table.name) ++ (createdNames vs).map Text.lower).Nodup →
      (sourcesFrom serial found vs = .ok (found', next) ↔
        ∃ ss, Made serial (creations vs) ss next ∧ found' = found ++ ss) := by
  induction vs with
  | nil =>
    intro serial found _
    constructor
    · intro h
      obtain ⟨rfl, rfl⟩ := Prod.mk.inj (Except.ok.inj h)
      exact ⟨[], .nil _, by simp⟩
    · rintro ⟨ss, hmade, rfl⟩
      cases hmade
      simp [sourcesFrom]
  | cons v vs ih =>
    intro serial found hnodup
    have hunfold : (if createsTable v then tableName? v else none) = createdName? v := rfl
    rw [sourcesFrom, hunfold]
    cases hname : createdName? v with
    | none =>
      have hnames : createdNames (v :: vs) = createdNames vs := List.filterMap_cons_none hname
      have hcreations : creations (v :: vs) = creations vs :=
        List.filterMap_cons_none (by simp [hname])
      rw [hcreations]
      exact ih (hnames ▸ hnodup)
    | some name =>
      have hnames : createdNames (v :: vs) = name :: createdNames vs := List.filterMap_cons_some hname
      have hcreations : creations (v :: vs) = (name, v) :: creations vs :=
        List.filterMap_cons_some (by simp [hname])
      rw [hnames, List.map_cons] at hnodup
      have hrest : (found.map (fun s => Text.lower s.table.name) ++
          (createdNames vs).map Text.lower).Nodup :=
        hnodup.sublist (List.Sublist.append_left (List.sublist_cons_self _ _) _)
      have hnew : findSource? found name = none := by
        rw [findSource?_eq_none_iff]
        intro s hs heq
        exact (List.nodup_append.mp hnodup).2.2 _ (List.mem_map_of_mem hs) _ (by simp) heq
      rw [hcreations]
      simp only [hnew, Option.isSome_none, Bool.false_eq_true, if_false]
      cases hsource : source? serial name v with
      | error e =>
        simp only [reduceCtorEq, false_iff, not_exists, not_and]
        intro ss hmade
        cases hmade with
        | skip hx _ => cases hsource.symm.trans hx
        | cons hx _ => cases hsource.symm.trans hx
      | ok found? =>
        cases found? with
        | none =>
          simp only
          rw [ih hrest]
          constructor
          · rintro ⟨ss, hmade, rfl⟩
            exact ⟨ss, .skip hsource hmade, rfl⟩
          · rintro ⟨ss, hmade, rfl⟩
            cases hmade with
            | skip _ hmade => exact ⟨ss, hmade, rfl⟩
            | cons hx _ => cases hsource.symm.trans hx
        | some p =>
          obtain ⟨s, middle⟩ := p
          have hs := (madeFrom_of_source? hsource).name_eq
          have hnext : ((found ++ [s]).map (fun s => Text.lower s.table.name) ++
              (createdNames vs).map Text.lower).Nodup := by
            simpa [hs] using hnodup
          simp only
          rw [ih hnext]
          constructor
          · rintro ⟨ss, hmade, rfl⟩
            exact ⟨s :: ss, .cons hsource hmade, by simp⟩
          · rintro ⟨ss, hmade, rfl⟩
            cases hmade with
            | skip hx _ => cases hsource.symm.trans hx
            | cons hx hmade =>
              obtain ⟨rfl, rfl⟩ := Prod.mk.inj (Option.some.inj (Except.ok.inj (hsource.symm.trans hx)))
              exact ⟨_, hmade, by simp⟩

/-- What a statement gives, if anything. -/
def given? (x : String × Value) : Option TableSource :=
  match content x with
  | .ok found => found
  | .error _ => none

/-- The sources hold what the statements give, and nothing else. -/
theorem Made.contents {serial next : Nat} {xs : List (String × Value)} {ss : List TableSource}
    (h : Made serial xs ss next) :
    (∀ x ∈ xs, ∃ found, content x = .ok found) ∧ ss.map withoutIds = xs.filterMap given? := by
  induction h with
  | nil serial => exact ⟨nofun, rfl⟩
  | skip hx _ ih =>
    have hcontent := content_of_source?_none hx
    refine ⟨List.forall_mem_cons.mpr ⟨⟨_, hcontent⟩, ih.1⟩, ?_⟩
    rw [ih.2, List.filterMap_cons_none (by rw [given?, hcontent])]
  | cons hx _ ih =>
    have hcontent := content_of_source? hx
    refine ⟨List.forall_mem_cons.mpr ⟨⟨_, hcontent⟩, ih.1⟩, ?_⟩
    rw [List.map_cons, ih.2, List.filterMap_cons_some (by rw [given?, hcontent])]

theorem exists_made {xs : List (String × Value)} (h : ∀ x ∈ xs, ∃ found, content x = .ok found) :
    ∀ serial, ∃ ss next, Made serial xs ss next := by
  induction xs with
  | nil => exact fun serial => ⟨[], serial, .nil serial⟩
  | cons x xs ih =>
    intro serial
    obtain ⟨⟨found, hfound⟩, hxs⟩ := List.forall_mem_cons.mp h
    rw [← map_source?_eq_content serial x] at hfound
    cases hsource : source? serial x.1 x.2 with
    | error e =>
      rw [hsource] at hfound
      cases hfound
    | ok made =>
      cases made with
      | none =>
        obtain ⟨ss, next, hmade⟩ := ih hxs serial
        exact ⟨ss, next, .skip hsource hmade⟩
      | some p =>
        obtain ⟨s, middle⟩ := p
        obtain ⟨ss, next, hmade⟩ := ih hxs middle
        exact ⟨s :: ss, next, .cons hsource hmade⟩

/-- In another order the same statements give the same sources, up to order and identifiers. -/
theorem Made.perm {serial next : Nat} {xs ys : List (String × Value)} {ss : List TableSource}
    (h : Made serial xs ss next) (hperm : xs.Perm ys) (serial' : Nat) :
    ∃ ss' next', Made serial' ys ss' next' ∧ (ss.map withoutIds).Perm (ss'.map withoutIds) := by
  obtain ⟨hok, hss⟩ := h.contents
  obtain ⟨ss', next', hmade⟩ := exists_made (fun y hy => hok y (hperm.mem_iff.mpr hy)) serial'
  exact ⟨ss', next', hmade, by rw [hss, hmade.contents.2]; exact hperm.filterMap _⟩

/-! ### Renaming -/

/-- The place of an identifier in one list picks its new name out of another list. -/
theorem exists_map_eq {as bs : List Id} (hlength : as.length = bs.length) (has : as.Nodup) (hbs : bs.Nodup) :
    ∃ f : Id → Id, as.map f = bs ∧ Set.InjOn f {id | id ∈ as} := by
  have hmap : (as.map fun id => bs.getD (as.idxOf id) id) = bs := by
    refine List.ext_getElem (by simpa using hlength) fun n hn hn' => ?_
    rw [List.getElem_map, has.idxOf_getElem, List.getD_eq_getElem]
  refine ⟨_, hmap, fun a ha b hb hab => ?_⟩
  exact List.inj_on_of_nodup_map (hmap.symm ▸ hbs) ha hb hab

theorem column_eq_mapIds {f : Id → Id} {c d : Column} (h : c.mapIds (fun _ => .fresh 0) = d.mapIds fun _ => .fresh 0)
    (hid : f c.id = d.id) : d = c.mapIds f := by
  cases c
  cases d
  simp_all [Column.mapIds]

theorem columns_eq_mapIds {f : Id → Id} {cs ds : List Column}
    (h : cs.map (Column.mapIds fun _ => .fresh 0) = ds.map (Column.mapIds fun _ => .fresh 0))
    (hids : cs.map (f ∘ fun c => c.id) = ds.map (·.id)) : ds = cs.map (Column.mapIds f) := by
  induction cs generalizing ds with
  | nil => simpa using h
  | cons c cs ih =>
    cases ds with
    | nil => simp at h
    | cons d ds =>
      simp only [List.map_cons, List.cons.injEq] at h hids
      rw [List.map_cons, column_eq_mapIds h.1 hids.1, ih h.2 hids.2]

/-- Sources that differ in their identifiers alone are renamed into each other along these. -/
theorem source_eq_mapIds {f : Id → Id} {s t : TableSource} (h : withoutIds s = withoutIds t)
    (hids : (sourceIds s).map f = sourceIds t) : t = s.mapIds f := by
  have hids : s.table.columns.map (f ∘ fun c => c.id) = t.table.columns.map (·.id) ∧
      f s.table.id = t.table.id := by
    simpa [sourceIds] using hids
  obtain ⟨⟨id, name, color, cs, position, parent⟩, constraints, inline⟩ := s
  obtain ⟨⟨id', name', color', ds, position', parent'⟩, constraints', inline'⟩ := t
  simp only [withoutIds, TableSource.mapIds, Table.mapIds, TableSource.mk.injEq, Table.mk.injEq,
    true_and] at h
  obtain ⟨⟨rfl, rfl, hcolumns, rfl, rfl⟩, rfl, rfl⟩ := h
  obtain rfl : f id = id' := hids.2
  rw [columns_eq_mapIds hcolumns hids.1]
  rfl

theorem length_sourceIds {s t : TableSource} (h : withoutIds s = withoutIds t) :
    (sourceIds s).length = (sourceIds t).length := by
  have hcolumns := congrArg (fun u => u.table.columns.length) h
  simpa [sourceIds, withoutIds, TableSource.mapIds, Table.mapIds] using hcolumns

theorem length_flatMap_sourceIds {ss ts : List TableSource}
    (h : List.Forall₂ (fun s t => withoutIds s = withoutIds t) ss ts) :
    (ss.flatMap sourceIds).length = (ts.flatMap sourceIds).length := by
  induction h with
  | nil => rfl
  | cons hst _ ih => simp only [List.flatMap_cons, List.length_append, length_sourceIds hst, ih]

theorem sources_eq_mapIds {f : Id → Id} {ss ts : List TableSource}
    (h : List.Forall₂ (fun s t => withoutIds s = withoutIds t) ss ts)
    (hids : (ss.flatMap sourceIds).map f = ts.flatMap sourceIds) : ts = ss.map (TableSource.mapIds f) := by
  induction h with
  | nil => rfl
  | cons hst _ ih =>
    rw [List.flatMap_cons, List.flatMap_cons, List.map_append] at hids
    obtain ⟨hhead, htail⟩ := List.append_inj hids (by simpa using length_sourceIds hst)
    rw [List.map_cons, source_eq_mapIds hst hhead, ih htail]

/-- Sources that are the same up to order and identifiers are renamed into each other. -/
theorem exists_renaming {ss ts : List TableSource} (h : (ss.map withoutIds).Perm (ts.map withoutIds))
    (hss : (ss.flatMap sourceIds).Nodup) (hts : (ts.flatMap sourceIds).Nodup) :
    ∃ f : Id → Id, Set.InjOn f {id | id ∈ ss.flatMap sourceIds} ∧ ts.Perm (ss.map (TableSource.mapIds f)) := by
  have hsame : List.Forall₂ (fun u t => u = withoutIds t) (ts.map withoutIds) ts :=
    List.forall₂_map_left_iff.mpr (List.forall₂_same.mpr fun _ _ => rfl)
  obtain ⟨us, hus, hperm⟩ := List.perm_comp_forall₂ h hsame
  have hus : List.Forall₂ (fun s t => withoutIds s = withoutIds t) ss us := List.forall₂_map_left_iff.mp hus
  have hids : (us.flatMap sourceIds).Perm (ts.flatMap sourceIds) := hperm.flatMap_right _
  obtain ⟨f, hmap, hf⟩ := exists_map_eq (length_flatMap_sourceIds hus) hss (hids.nodup_iff.mpr hts)
  exact ⟨f, hf, sources_eq_mapIds hus hmap ▸ hperm.symm⟩

end Extraction

end SchemaDesk
