import SchemaDesk.Proofs.Reconciliation.Matching

/-!
The tables after an edit. Each keeps what the edited script says of it, and takes its identity and its
place on the canvas from the old table that it takes over, if there is one.
-/

namespace SchemaDesk.Reconciliation

/-- The columns are the same but for their identifiers. -/
def SameButId (c c' : Column) : Prop := c' = { c with id := c'.id }

/-- A column in a table that takes over `o`: it has the identifier of the first column of its name
there, and its own if there is none. -/
def ColumnCarried (o : Table) (c c' : Column) : Prop :=
  SameButId c c' ∧
    ((∃ p, FirstNamed Column.name o.columns c.name p ∧ c'.id = p.id) ∨
      ((∀ p, ¬ FirstNamed Column.name o.columns c.name p) ∧ c'.id = c.id))

/-- The table has the identifier of `o` and its place on the canvas. -/
def HasIdentityOf (o t : Table) : Prop :=
  t.id = o.id ∧ t.color = o.color ∧ t.position = o.position ∧ t.parentNode = o.parentNode

/-- The outcome of an edit for the tables and their names, told table by table. -/
structure TablesCarried (old : List Table) (names : List String) (new : List Table)
    (r : Reconciled) : Prop where
  length_eq : r.schema.tables.length = new.length
  content : ∀ (i : Nat) (n t : Table), new[i]? = some n → r.schema.tables[i]? = some t →
    t.name = n.name ∧ List.Forall₂ SameButId n.columns t.columns
  identity_iff : ∀ (i : Nat) (n t : Table), new[i]? = some n → r.schema.tables[i]? = some t →
    ∀ o ∈ old, HasIdentityOf o t ↔ Takes old names new i o
  own : ∀ (i : Nat) (n t : Table), new[i]? = some n → r.schema.tables[i]? = some t →
    (∀ o, ¬ Takes old names new i o) → t = n
  columns : ∀ (i : Nat) (n t : Table), new[i]? = some n → r.schema.tables[i]? = some t →
    ∀ o, Takes old names new i o → List.Forall₂ (ColumnCarried o) n.columns t.columns
  renamed_iff : ∀ before after, (before, after) ∈ r.renamed ↔
    ∃ i o n, TakesByPlace old names new i o ∧ new[i]? = some n ∧ before = o.name ∧ after = n.name
  renamed_nodup : (r.renamed.map Prod.fst).Nodup

theorem mergeColumn_carried (o : Table) (c : Column) : ColumnCarried o c (mergeColumn o c) := by
  cases hfind : o.findColumn? c.name with
  | none =>
    have hnone : ∀ p, ¬ FirstNamed Column.name o.columns c.name p := by
      intro p hp
      rw [← find?_sameName_eq_some_iff] at hp
      cases hfind.symm.trans hp
    have hmerge : mergeColumn o c = c := by simp [mergeColumn, hfind]
    rw [hmerge]
    exact ⟨rfl, Or.inr ⟨hnone, rfl⟩⟩
  | some p =>
    have hmerge : mergeColumn o c = { c with id := p.id } := by simp [mergeColumn, hfind]
    rw [hmerge]
    exact ⟨rfl, Or.inl ⟨p, find?_sameName_eq_some_iff.mp hfind, rfl⟩⟩

theorem forall₂_map_right {α : Type} {R : α → α → Prop} {f : α → α} (h : ∀ a, R a (f a))
    (xs : List α) : List.Forall₂ R xs (xs.map f) := by
  induction xs with
  | nil => exact .nil
  | cons x xs ih => exact .cons (h x) ih

theorem mergeTable_hasIdentityOf (o n : Table) : HasIdentityOf o (mergeTable (some o) n) :=
  ⟨rfl, rfl, rfl, rfl⟩

theorem mergeTable_columns (o n : Table) :
    List.Forall₂ (ColumnCarried o) n.columns (mergeTable (some o) n).columns :=
  forall₂_map_right (mergeColumn_carried o) n.columns

theorem mergeTable_content (o? : Option Table) (n : Table) :
    (mergeTable o? n).name = n.name ∧ List.Forall₂ SameButId n.columns (mergeTable o? n).columns := by
  cases o? with
  | none => exact ⟨rfl, List.forall₂_same.mpr fun c _ => rfl⟩
  | some o => exact ⟨rfl, (mergeTable_columns o n).imp fun _ _ h => h.1⟩

/-- The entry that a new table makes among the renamed ones. -/
def renaming? (p : Option Table × Table) : Option (String × String) :=
  match p.1 with
  | none => none
  | some o => if Text.sameName o.name p.2.name then none else some (o.name, p.2.name)

theorem setRenamed_of_new {entries : List (String × String)} {a b : String}
    (h : a ∉ entries.map Prod.fst) : setRenamed a b entries = entries ++ [(a, b)] := by
  have hany : entries.any (·.1 == a) = false := by
    rw [List.any_eq_false]
    intro e he heq
    exact h (List.mem_map.mpr ⟨e, he, by simpa using heq⟩)
  simp [setRenamed, hany]

/-- As long as no old name comes up twice, every renamed table has an entry of its own. -/
theorem foldl_setRenamed_eq_append (pairs : List (Option Table × Table)) :
    ∀ entries : List (String × String),
      ((entries ++ pairs.filterMap renaming?).map Prod.fst).Nodup →
      pairs.foldl (fun entries p => match p.1 with
        | none => entries
        | some o => if Text.sameName o.name p.2.name then entries
          else setRenamed o.name p.2.name entries) entries =
        entries ++ pairs.filterMap renaming? := by
  induction pairs with
  | nil => simp
  | cons p pairs ih =>
    intro entries hnodup
    obtain ⟨o?, n⟩ := p
    cases o? with
    | none =>
      have hentry : renaming? (none, n) = none := rfl
      rw [List.filterMap_cons_none hentry] at hnodup ⊢
      exact ih entries hnodup
    | some o =>
      by_cases hsame : Text.sameName o.name n.name
      · have hentry : renaming? (some o, n) = none := by simp [renaming?, hsame]
        rw [List.filterMap_cons_none hentry] at hnodup ⊢
        simpa [hsame] using ih entries hnodup
      · have hentry : renaming? (some o, n) = some (o.name, n.name) := by
          simp [renaming?, hsame]
        rw [List.filterMap_cons_some hentry] at hnodup ⊢
        have hfresh : o.name ∉ entries.map Prod.fst := by
          rw [List.map_append, List.nodup_append] at hnodup
          intro hmem
          exact hnodup.2.2 _ hmem _ (by simp) rfl
        have hstep := ih (entries ++ [(o.name, n.name)]) (by simpa using hnodup)
        simpa [hsame, setRenamed_of_new hfresh] using hstep

theorem TakesByName.sameName {old new : List Table} {i : Nat} {o n : Table}
    (h : TakesByName old new i o) (hn : new[i]? = some n) : Text.sameName o.name n.name = true := by
  obtain ⟨m, hm, hfirst, -⟩ := h
  obtain rfl : m = n := Option.some.inj (hm.symm.trans hn)
  simp [Text.sameName, hfirst.lower_eq]

theorem TakesByPlace.not_sameName {old : List Table} {names : List String} {new : List Table}
    {i : Nat} {o n : Table} (h : TakesByPlace old names new i o) (hn : new[i]? = some n) :
    Text.sameName o.name n.name = false := by
  have hfree := (takesByPlace_iff.mp h).2.2.2.1 n (List.mem_of_getElem? hn)
  simpa [Text.sameName] using hfree.symm

/-- Two places never take old tables of one name. -/
theorem TakesByPlace.name_ne {old : List Table} {names : List String} {new : List Table} {i j : Nat}
    {o p : Table} (hi : TakesByPlace old names new i o) (hj : TakesByPlace old names new j p)
    (hij : i < j) : o.name ≠ p.name := by
  intro hname
  obtain ⟨-, -, ⟨s, -, hfirst⟩, -⟩ := takesByPlace_iff.mp hi
  obtain ⟨-, -, ⟨t, -, hfirst'⟩, -, hearlier⟩ := takesByPlace_iff.mp hj
  have hlower : Text.lower s = Text.lower t := by
    rw [← hfirst.lower_eq, ← hfirst'.lower_eq, hname]
  obtain rfl := (hfirst.of_lower_eq hlower).unique hfirst'
  exact hearlier i hij hi

theorem mem_renamedEntries_iff {old : List Table} (hids : (old.map (·.id)).Nodup)
    (names : List String) (new : List Table) (before after : String) :
    (before, after) ∈ ((matching old names new).zip new).filterMap renaming? ↔
      ∃ i o n, TakesByPlace old names new i o ∧ new[i]? = some n ∧ before = o.name ∧
        after = n.name := by
  obtain ⟨-, htakes⟩ := matching_spec hids names new
  rw [List.mem_filterMap]
  constructor
  · rintro ⟨⟨o?, n⟩, hmem, hentry⟩
    obtain ⟨i, hi⟩ := List.mem_iff_getElem?.mp hmem
    obtain ⟨hfound, hn⟩ := List.getElem?_zip_eq_some.mp hi
    cases o? with
    | none => simp [renaming?] at hentry
    | some o =>
      rcases (htakes i o).mp hfound with ho | ho
      · simp [renaming?, ho.sameName hn] at hentry
      · simp only [renaming?, ho.not_sameName hn, Bool.false_eq_true, if_false,
          Option.some.injEq, Prod.mk.injEq] at hentry
        exact ⟨i, o, n, ho, hn, hentry.1.symm, hentry.2.symm⟩
  · rintro ⟨i, o, n, ho, hn, rfl, rfl⟩
    have hfound := (htakes i o).mpr (Or.inr ho)
    refine ⟨(some o, n), List.mem_iff_getElem?.mpr ⟨i, ?_⟩, ?_⟩
    · exact List.getElem?_zip_eq_some.mpr ⟨hfound, hn⟩
    · simp [renaming?, ho.not_sameName hn]

theorem nodup_renamedEntries {old : List Table} (hids : (old.map (·.id)).Nodup)
    (names : List String) (new : List Table) :
    ((((matching old names new).zip new).filterMap renaming?).map Prod.fst).Nodup := by
  obtain ⟨-, htakes⟩ := matching_spec hids names new
  rw [List.Nodup, List.pairwise_map, List.pairwise_filterMap, List.pairwise_iff_getElem]
  rintro i j hi hj hij ⟨a, a'⟩ ha ⟨b, b'⟩ hb
  have hplace : ∀ k (hk : k < ((matching old names new).zip new).length) e,
      renaming? ((matching old names new).zip new)[k] = some e →
        ∃ o, TakesByPlace old names new k o ∧ e.1 = o.name := by
    intro k hk e he
    obtain ⟨hfound, hn⟩ := List.getElem?_zip_eq_some.mp
      (List.getElem?_eq_getElem (l := (matching old names new).zip new) hk)
    generalize ((matching old names new).zip new)[k] = p at he hfound hn
    obtain ⟨o?, n⟩ := p
    cases o? with
    | none => simp [renaming?] at he
    | some o =>
      rcases (htakes k o).mp hfound with ho | ho
      · simp [renaming?, ho.sameName hn] at he
      · simp only [renaming?, ho.not_sameName hn, Bool.false_eq_true, if_false,
          Option.some.injEq] at he
        exact ⟨o, ho, he ▸ rfl⟩
  obtain ⟨o, ho, hname⟩ := hplace i hi _ ha
  obtain ⟨p, hp, hname'⟩ := hplace j hj _ hb
  intro heq
  exact ho.name_ne hp hij (hname.symm.trans (heq.trans hname'))

theorem renamedTables_eq {old : List Table} (hids : (old.map (·.id)).Nodup) (names : List String)
    (new : List Table) :
    renamedTables (matching old names new) new =
      ((matching old names new).zip new).filterMap renaming? := by
  have hnodup := nodup_renamedEntries hids names new
  exact foldl_setRenamed_eq_append _ [] (by simpa using hnodup)

/-- The table at a place of the outcome is the merge of the new table there with the old table that it
takes over. -/
theorem getElem?_reconcile {old new : Schema} (hids : (old.tables.map (·.id)).Nodup)
    {names : List String} {i : Nat} {n t : Table} (hn : new.tables[i]? = some n)
    (ht : (old.reconcile names new).schema.tables[i]? = some t) :
    (∃ o, Takes old.tables names new.tables i o ∧ t = mergeTable (some o) n) ∨
      ((∀ o, ¬ Takes old.tables names new.tables i o) ∧ t = n) := by
  obtain ⟨-, htakes⟩ := matching_spec hids names new.tables
  simp only [Schema.reconcile, List.getElem?_map, Option.map_eq_some_iff] at ht
  obtain ⟨⟨o?, m⟩, hzip, rfl⟩ := ht
  obtain ⟨hfound, hm⟩ := List.getElem?_zip_eq_some.mp hzip
  obtain rfl : m = n := Option.some.inj (hm.symm.trans hn)
  cases o? with
  | some o => exact Or.inl ⟨o, (htakes i o).mp hfound, rfl⟩
  | none =>
    refine Or.inr ⟨fun o ho => ?_, rfl⟩
    cases hfound.symm.trans ((htakes i o).mpr ho)

/-- After an edit every table of the edited script is there, in its order and with its content. It has
the identity of the old table that it takes over by name or by place, and its own if there is none; the
renamed tables are those that were taken over by place. -/
theorem tablesCarried_reconcile (old new : Schema) (names : List String)
    (hold : (old.tables.map (·.id)).Nodup)
    (hdisjoint : ∀ o ∈ old.tables, ∀ n ∈ new.tables, o.id ≠ n.id) :
    TablesCarried old.tables names new.tables (old.reconcile names new) := by
  obtain ⟨hlength, htakes⟩ := matching_spec hold names new.tables
  constructor
  case length_eq => simp [Schema.reconcile, hlength]
  case content =>
    intro i n t hn ht
    rcases getElem?_reconcile hold hn ht with ⟨o, -, rfl⟩ | ⟨-, rfl⟩
    · exact mergeTable_content (some o) n
    · exact mergeTable_content none t
  case identity_iff =>
    intro i n t hn ht o ho
    rcases getElem?_reconcile hold hn ht with ⟨p, hp, rfl⟩ | ⟨hnone, rfl⟩
    · constructor
      · intro hid
        obtain rfl := eq_of_mem_of_id_eq hold hp.mem ho hid.1
        exact hp
      · intro ho
        obtain rfl := ho.unique hp
        exact mergeTable_hasIdentityOf o n
    · refine ⟨fun hid => ?_, fun ho => absurd ho (hnone o)⟩
      exact absurd hid.1.symm (hdisjoint o ho t (List.mem_of_getElem? hn))
  case own =>
    intro i n t hn ht hnone
    rcases getElem?_reconcile hold hn ht with ⟨o, ho, -⟩ | ⟨-, rfl⟩
    · exact absurd ho (hnone o)
    · rfl
  case columns =>
    intro i n t hn ht o ho
    rcases getElem?_reconcile hold hn ht with ⟨p, hp, rfl⟩ | ⟨hnone, -⟩
    · obtain rfl := ho.unique hp
      exact mergeTable_columns o n
    · exact absurd ho (hnone o)
  case renamed_iff =>
    intro before after
    have hrenamed := renamedTables_eq hold names new.tables
    simpa only [Schema.reconcile, hrenamed] using
      mem_renamedEntries_iff hold names new.tables before after
  case renamed_nodup =>
    have hrenamed := renamedTables_eq hold names new.tables
    simpa only [Schema.reconcile, hrenamed] using nodup_renamedEntries hold names new.tables

/-- A table that kept its name in another place leaves the place of the renamed one to that. -/
theorem tablesCarried_moved_and_renamed :
    let old : Schema := { tables := [{ id := .named "o1", name := "a" }, { id := .named "o2", name := "B" }] }
    let new : Schema := { tables := [{ id := .named "n1", name := "c" }, { id := .named "n2", name := "b" }] }
    (old.tables.map (·.id)).Nodup ∧ (∀ o ∈ old.tables, ∀ n ∈ new.tables, o.id ≠ n.id) ∧
      TablesCarried old.tables ["a", "b"] new.tables (old.reconcile ["a", "b"] new) :=
  ⟨by decide, by decide, tablesCarried_reconcile _ _ _ (by decide) (by decide)⟩

end SchemaDesk.Reconciliation
