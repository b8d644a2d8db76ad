import Mathlib.Data.List.Forall2
import Mathlib.Tactic.Common
import SchemaDesk.Proofs.Extraction.WellFormed

/-!
Where an extracted table comes from: its statement, the description of each of its columns, and the
marks that the constraints of the statement add to a column.
-/

namespace SchemaDesk

/-- A mark is set by a list of marks if it is set by one of them. -/
theorem ColumnMarks.joinAll_eq_any (mark : ColumnMarks → Bool) (hnone : mark {} = false)
    (hjoin : ∀ a b, mark (join a b) = (mark a || mark b)) (ms : List ColumnMarks) :
    mark (joinAll ms) = ms.any mark := by
  have hfold (m : ColumnMarks) : mark (ms.foldl join m) = (mark m || ms.any mark) := by
    induction ms generalizing m with
    | nil => simp
    | cons n ms ih => rw [List.foldl_cons, ih, hjoin, List.any_cons, Bool.or_assoc]
  rw [joinAll, hfold, hnone, Bool.false_or]

namespace Extraction

/-! ### Places of columns -/

/-- The place of the first column of that name, or the count of columns if there is none. -/
def place (cs : List Column) (name : String) : Nat := cs.findIdx fun c => Text.sameName c.name name

theorem findColumn?_eq_getElem? (t : Table) (name : String) :
    t.findColumn? name = t.columns[place t.columns name]? :=
  List.find?_eq_getElem?_findIdx

theorem changeColumn_eq_modify (name : String) (change : Column → Column) (cs : List Column) :
    changeColumn name change cs = cs.modify (place cs name) change := by
  induction cs with
  | nil => rfl
  | cons c cs ih =>
    rw [changeColumn, place, List.findIdx_cons]
    cases hname : Text.sameName c.name name with
    | true => rfl
    | false =>
      simp only [Bool.false_eq_true, if_false, cond_false]
      rw [List.modify_succ_cons, ih, place]

theorem getElem?_changeColumn (name : String) (change : Column → Column) (cs : List Column) (i : Nat) :
    (changeColumn name change cs)[i]? = (cs[i]?).map fun c => if place cs name = i then change c else c := by
  rw [changeColumn_eq_modify, List.getElem?_modify]
  rfl

/-- Changes that keep the names keep the places. -/
theorem place_eq_of_names {cs ds : List Column} (h : ds.map (·.name) = cs.map (·.name)) (name : String) :
    place ds name = place cs name := by
  have hplace (bs : List Column) : place bs name = (bs.map (·.name)).findIdx fun n => Text.sameName n name := by
    rw [place, List.findIdx_map]
    rfl
  rw [hplace, hplace, h]

/-! ### Marks of columns -/

/-- What constraints make of a column: one of the key, or one with unique values. All else stays. -/
structure IsMarked (key unique : Prop) (c c' : Column) : Prop where
  name_eq : c'.name = c.name
  type_eq : c'.type = c.type
  primaryKey_iff : c'.primaryKey = true ↔ c.primaryKey = true ∨ key
  unique_iff : c'.unique = true ↔ c.unique = true ∨ key ∨ unique

namespace IsMarked

variable {key key' unique unique' : Prop} {a b c : Column}

theorem refl (c : Column) : IsMarked False False c c := ⟨rfl, rfl, by simp, by simp⟩

theorem trans (hab : IsMarked key unique a b) (hbc : IsMarked key' unique' b c) :
    IsMarked (key ∨ key') (unique ∨ unique') a c := by
  refine ⟨hbc.name_eq.trans hab.name_eq, hbc.type_eq.trans hab.type_eq, ?_, ?_⟩
  · rw [hbc.primaryKey_iff, hab.primaryKey_iff, or_assoc]
  · rw [hbc.unique_iff, hab.unique_iff, or_assoc, or_or_or_comm]

theorem congr (h : IsMarked key unique a b) (hkey : key ↔ key') (hunique : unique ↔ unique') :
    IsMarked key' unique' a b := by
  rwa [← propext hkey, ← propext hunique]

theorem markKey (c : Column) : IsMarked True False c (markKey c) :=
  ⟨rfl, rfl, by simp [Extraction.markKey], by simp [Extraction.markKey]⟩

theorem markUnique (c : Column) : IsMarked False True c (markUnique c) :=
  ⟨rfl, rfl, by simp [Extraction.markUnique], by simp [Extraction.markUnique]⟩

end IsMarked

/-- The columns are the same ones in their places, with marks that depend on the place. -/
structure AreMarked (key unique : Nat → Prop) (cs ds : List Column) : Prop where
  names_eq : ds.map (·.name) = cs.map (·.name)
  each : ∀ i c, cs[i]? = some c → ∃ d, ds[i]? = some d ∧ IsMarked (key i) (unique i) c d

namespace AreMarked

variable {key key' unique unique' : Nat → Prop} {as bs cs : List Column}

theorem refl (cs : List Column) : AreMarked (fun _ => False) (fun _ => False) cs cs :=
  ⟨rfl, fun _ c hc => ⟨c, hc, .refl c⟩⟩

theorem trans (hab : AreMarked key unique as bs) (hbc : AreMarked key' unique' bs cs) :
    AreMarked (fun i => key i ∨ key' i) (fun i => unique i ∨ unique' i) as cs := by
  refine ⟨hbc.names_eq.trans hab.names_eq, fun i a ha => ?_⟩
  obtain ⟨b, hb, hab⟩ := hab.each i a ha
  obtain ⟨c, hc, hbc⟩ := hbc.each i b hb
  exact ⟨c, hc, hab.trans hbc⟩

theorem congr (h : AreMarked key unique as bs) (hkey : ∀ i, key i ↔ key' i) (hunique : ∀ i, unique i ↔ unique' i) :
    AreMarked key' unique' as bs := by
  refine ⟨h.names_eq, fun i a ha => ?_⟩
  obtain ⟨b, hb, hab⟩ := h.each i a ha
  exact ⟨b, hb, hab.congr (hkey i) (hunique i)⟩

theorem length_eq (h : AreMarked key unique as bs) : bs.length = as.length := by
  simpa using congrArg List.length h.names_eq

end AreMarked

/-- A change of the first column of each name marks the places of the names. -/
theorem areMarked_foldl {key unique : Prop} {change : Column → Column}
    (hchange : ∀ c, IsMarked key unique c (change c)) (names : List String) (cs : List Column) :
    AreMarked (fun i => key ∧ ∃ name ∈ names, place cs name = i)
      (fun i => unique ∧ ∃ name ∈ names, place cs name = i) cs
      (names.foldl (fun cs name => changeColumn name change cs) cs) := by
  induction names generalizing cs with
  | nil => exact (AreMarked.refl cs).congr (by simp) (by simp)
  | cons name names ih =>
    have hfirst : AreMarked (fun i => key ∧ place cs name = i) (fun i => unique ∧ place cs name = i) cs
        (changeColumn name change cs) := by
      constructor
      case names_eq =>
        rw [changeColumn_eq_modify]
        refine List.ext_getElem? fun i => ?_
        rw [List.getElem?_map, List.getElem?_map, List.getElem?_modify]
        cases cs[i]? with
        | none => rfl
        | some c =>
          simp only [Option.map_eq_map, Option.map_some]
          split
          · rw [(hchange c).name_eq]
          · rfl
      case each =>
        intro i c hc
        rw [getElem?_changeColumn, hc]
        by_cases hi : place cs name = i
        · exact ⟨change c, by simp [hi], (hchange c).congr (by simp [hi]) (by simp [hi])⟩
        · exact ⟨c, by simp [hi], (IsMarked.refl c).congr (by simp [hi]) (by simp [hi])⟩
    have hrest := ih (changeColumn name change cs)
    simp only [place_eq_of_names hfirst.names_eq] at hrest
    refine (hfirst.trans hrest).congr (fun i => ?_) (fun i => ?_)
    · rw [List.exists_mem_cons_iff, and_or_left]
    · rw [List.exists_mem_cons_iff, and_or_left]

/-- A constraint of that kind lists the name of the column at the place; of several columns of one name
the first is meant. -/
def IsListed (kind : ConstraintKind) (ks : List TableConstraint) (cs : List Column) (i : Nat) : Prop :=
  ∃ k ∈ ks, k.kind = kind ∧ ∃ name ∈ k.columns, place cs name = i

theorem areMarked_applyConstraint (cs : List Column) (k : TableConstraint) :
    AreMarked (IsListed .primaryKey [k] cs) (IsListed .unique [k] cs) cs (applyConstraint cs k) := by
  unfold applyConstraint
  split
  · next hkind =>
    exact (areMarked_foldl IsMarked.markKey k.columns cs).congr (by simp [IsListed, hkind]) (by simp [IsListed, hkind])
  · next hkind =>
    exact (areMarked_foldl IsMarked.markUnique k.columns cs).congr (by simp [IsListed, hkind]) (by simp [IsListed, hkind])
  · next hkey hunique =>
    have hother (kind : ConstraintKind) (hkind : k.kind = kind → False) (i : Nat) : ¬ IsListed kind [k] cs i := by
      rintro ⟨k', hk', hkind', -⟩
      rw [List.mem_singleton.mp hk'] at hkind'
      exact hkind hkind'
    exact (AreMarked.refl cs).congr (fun i => (iff_false_intro (hother _ hkey i)).symm)
      (fun i => (iff_false_intro (hother _ hunique i)).symm)

/-- The constraints of a table mark the columns that they list, and no others. -/
theorem areMarked_applyConstraints (cs : List Column) (ks : List TableConstraint) :
    AreMarked (IsListed .primaryKey ks cs) (IsListed .unique ks cs) cs (applyConstraints cs ks) := by
  induction ks generalizing cs with
  | nil => exact (AreMarked.refl cs).congr (by simp [IsListed]) (by simp [IsListed])
  | cons k ks ih =>
    have hfirst := areMarked_applyConstraint cs k
    have hrest := ih (applyConstraint cs k)
    have hlisted (kind : ConstraintKind) (i : Nat) :
        IsListed kind [k] cs i ∨ IsListed kind ks (applyConstraint cs k) i ↔ IsListed kind (k :: ks) cs i := by
      simp only [IsListed, place_eq_of_names hfirst.names_eq, List.exists_mem_cons_iff, List.not_mem_nil, false_and,
        exists_false, or_false]
    exact (hfirst.trans hrest).congr (hlisted _) (hlisted _)

/-! ### Descriptions of columns -/

theorem exists_getElem?_of_forall₂ {α β : Type} {R : α → β → Prop} {as : List α} {bs : List β}
    (h : List.Forall₂ R as bs) {i : Nat} {a : α} (ha : as[i]? = some a) : ∃ b, bs[i]? = some b ∧ R a b := by
  induction h generalizing i with
  | nil => cases ha
  | @cons x y _ _ hxy _ ih =>
    cases i with
    | zero =>
      obtain rfl : x = a := Option.some.inj ha
      exact ⟨y, rfl, hxy⟩
    | succ i => exact ih ha

/-- The definition in a description, if there is one. -/
def definition? (item : Value) : Option ColumnDefinition :=
  match ColumnDefinition.ofValue? item with
  | .ok d => d
  | .error _ => none

/-- The descriptions of a statement that become columns. -/
def columnItems (statement : Value) : List Value :=
  (columnDescriptions statement).filter fun item => (definition? item).isSome

/-- Where the parts of a definition come from. -/
structure IsDefinitionOf (item : Value) (d : ColumnDefinition) : Prop where
  name_eq : (item.get "column").nameText? = some d.name
  typeName_eq : d.typeName = ColumnType.normalSpelling (ColumnDefinition.writtenType item)
  marks_eq : d.marks = ColumnDefinition.marksOf item d.typeName

theorem isDefinitionOf_of_definition? {item : Value} {d : ColumnDefinition} (h : definition? item = some d) :
    IsDefinitionOf item d := by
  rw [definition?] at h
  split at h
  · next found hvalue =>
    subst h
    unfold ColumnDefinition.ofValue? at hvalue
    split at hvalue
    · cases hvalue
    split at hvalue
    · cases hvalue
    · next name hname =>
      dsimp only at hvalue
      split at hvalue
      · cases hvalue
      · cases hnumbers : ColumnDefinition.writtenNumbers item with
        | error e => rw [hnumbers] at hvalue; cases hvalue
        | ok ns =>
          rw [hnumbers] at hvalue
          obtain rfl := Option.some.inj (Except.ok.inj hvalue)
          constructor
          case name_eq => exact hname
          all_goals dsimp only
  · cases h

theorem forall₂_definitions {vs : List Value} {ds : List ColumnDefinition} (h : definitions vs = .ok ds) :
    List.Forall₂ (fun item d => definition? item = some d) (vs.filter fun item => (definition? item).isSome) ds := by
  induction vs generalizing ds with
  | nil =>
    obtain rfl := Except.ok.inj h
    exact .nil
  | cons v vs ih =>
    rw [definitions] at h
    split at h
    · cases h
    · next found hfound =>
      cases hrest : definitions vs with
      | error e => rw [hrest] at h; cases h
      | ok es =>
        rw [hrest] at h
        obtain rfl := Except.ok.inj h
        have hdefinition : definition? v = found := by rw [definition?, hfound]
        cases found with
        | none =>
          rw [List.filter_cons_of_neg (by simp [hdefinition])]
          exact ih hrest
        | some d =>
          rw [List.filter_cons_of_pos (by simp [hdefinition])]
          exact .cons hdefinition (ih hrest)

/-- The column before any constraint of the table is applied. -/
structure IsDefined (d : ColumnDefinition) (c : Column) : Prop where
  name_eq : c.name = d.name
  type_eq : c.type = columnType d
  primaryKey_eq : c.primaryKey = d.marks.primaryKey
  unique_eq : c.unique = (d.marks.unique || d.marks.primaryKey)

theorem forall₂_columns (ds : List ColumnDefinition) (serial : Nat) :
    List.Forall₂ IsDefined ds (columns serial ds) := by
  induction ds generalizing serial with
  | nil => exact .nil
  | cons d ds ih => exact .cons ⟨rfl, rfl, rfl, rfl⟩ (ih (serial + 1))

/-! ### The statement of a table -/

/-- The table is that of the statement, and no statement before it gives a table of that name. -/
structure IsTakenFrom (before : List Value) (v : Value) (t : Table) : Prop where
  creates : createsTable v = true
  name_eq : tableName? v = some t.name
  source_eq : ∃ n m source, source? n t.name v = .ok (some (source, m)) ∧ source.table = t
  first : ∀ w ∈ before, createsTable w = true → ∀ name, tableName? w = some name → Text.sameName name t.name →
    columnItems w = []

theorem columnItems_eq_nil_of_source? {n : Nat} {name : String} {v : Value} (h : source? n name v = .ok none) :
    columnItems v = [] := by
  cases hdefinitions : definitions (columnDescriptions v) with
  | error e => rw [source?, hdefinitions] at h; cases h
  | ok ds =>
    simp only [source?, hdefinitions, Except.map, Except.ok.injEq, ite_eq_left_iff, reduceCtorEq, imp_false,
      not_not, List.isEmpty_iff] at h
    subst h
    exact List.forall₂_nil_right_iff.mp (forall₂_definitions hdefinitions)

theorem findSource?_congr {found : List TableSource} {name other : String} (h : Text.sameName name other) :
    findSource? found name = findSource? found other := by
  have hlower : Text.lower name = Text.lower other := by simpa [Text.sameName] using h
  simp only [findSource?, Text.sameName, hlower]

/-- The source is that of the statement, and no statement before it gives a source of that name. -/
structure IsSourceOf (before : List Value) (v : Value) (s : TableSource) : Prop where
  creates : createsTable v = true
  name_eq : tableName? v = some s.table.name
  source_eq : ∃ n m, source? n s.table.name v = .ok (some (s, m))
  first : ∀ w ∈ before, createsTable w = true → ∀ name, tableName? w = some name → Text.sameName name s.table.name →
    columnItems w = []

theorem IsSourceOf.isTakenFrom {before : List Value} {v : Value} {s : TableSource} (h : IsSourceOf before v s) :
    IsTakenFrom before v s.table := by
  obtain ⟨n, m, hsource⟩ := h.source_eq
  exact ⟨h.creates, h.name_eq, ⟨n, m, s, hsource, rfl⟩, h.first⟩

/-- Each source is one that was there before, or that of a statement with a new name. -/
theorem exists_statement_of_mem {serial next : Nat} {found found' : List TableSource} {vs : List Value}
    (h : sourcesFrom serial found vs = .ok (found', next)) {s : TableSource} (hs : s ∈ found') :
    s ∈ found ∨ findSource? found s.table.name = none ∧
      ∃ before v after, vs = before ++ v :: after ∧ IsSourceOf before v s := by
  induction vs generalizing serial found with
  | nil =>
    obtain ⟨rfl, -⟩ := Prod.mk.inj (Except.ok.inj h)
    exact Or.inl hs
  | cons v vs ih =>
    -- A statement that gives no table of a new name is one more statement in front.
    have hskip {n : Nat} (h : sourcesFrom n found vs = .ok (found', next))
        (hv : createsTable v = true → ∀ name, tableName? v = some name → findSource? found name = none →
          columnItems v = []) :
        s ∈ found ∨ findSource? found s.table.name = none ∧
          ∃ before w after, v :: vs = before ++ w :: after ∧ IsSourceOf before w s := by
      rcases ih h with hfound | ⟨hnew, before, w, after, rfl, hw⟩
      · exact Or.inl hfound
      · refine Or.inr ⟨hnew, v :: before, w, after, rfl, hw.creates, hw.name_eq, hw.source_eq, ?_⟩
        rw [List.forall_mem_cons]
        refine ⟨fun hcreates name hname hsame => ?_, hw.first⟩
        exact hv hcreates name hname ((findSource?_congr hsame).trans hnew)
    rw [sourcesFrom] at h
    split at h
    · next hname =>
      refine hskip h fun hcreates name hv => ?_
      rw [if_pos hcreates, hv] at hname
      cases hname
    · next name hname =>
      obtain ⟨hcreates, hname⟩ : createsTable v = true ∧ tableName? v = some name := by
        split at hname
        · next hcreates => exact ⟨hcreates, hname⟩
        · cases hname
      split at h
      · next hknown =>
        refine hskip h fun _ other hother hnew => ?_
        obtain rfl : name = other := Option.some.inj (hname.symm.trans hother)
        simp [hnew] at hknown
      · next hnew =>
        split at h
        · cases h
        · next hnone => exact hskip h fun _ _ _ _ => columnItems_eq_nil_of_source? hnone
        · next source m hsource =>
          have hsourceName : source.table.name = name := (madeFrom_of_source? hsource).name_eq
          rcases ih h with hkept | ⟨hnone, before, w, after, rfl, hw⟩
          · rcases List.mem_append.mp hkept with hkept | hkept
            · exact Or.inl hkept
            · obtain rfl := List.mem_singleton.mp hkept
              subst hsourceName
              refine Or.inr ⟨by simpa using hnew, [], v, vs, rfl, hcreates, hname, ⟨serial, m, hsource⟩, ?_⟩
              exact List.forall_mem_nil _
          · rw [findSource?_eq_none_iff, List.forall_mem_append, ← findSource?_eq_none_iff, List.forall_mem_singleton]
              at hnone
            refine Or.inr ⟨hnone.1, v :: before, w, after, rfl, hw.creates, hw.name_eq, hw.source_eq, ?_⟩
            rw [List.forall_mem_cons]
            refine ⟨fun _ other hother hsame => (hnone.2 ?_).elim, hw.first⟩
            obtain rfl : name = other := Option.some.inj (hname.symm.trans hother)
            rw [hsourceName]
            simpa [Text.sameName] using hsame

/-- Each table of a schema is that of a statement. -/
theorem exists_statement {serial next : Nat} {vs : List Value} {s : Schema}
    (h : Schema.ofStatements serial vs = .ok (s, next)) {t : Table} (ht : t ∈ s.tables) :
    ∃ before v after, vs = before ++ v :: after ∧ IsTakenFrom before v t := by
  obtain ⟨sources, middle, hsources, htables, -⟩ := ofStatements_eq_ok h
  rw [htables] at ht
  obtain ⟨source, hsource, rfl⟩ := List.mem_map.mp ht
  obtain ⟨-, before, v, after, hvs, hv⟩ := (exists_statement_of_mem hsources hsource).resolve_left nofun
  exact ⟨before, v, after, hvs, hv.isTakenFrom⟩

/-- What a statement says of the column at a place of its table. -/
structure IsDescribed (v : Value) (cs : List Column) (i : Nat) (d : ColumnDefinition) (c : Column) : Prop where
  name_eq : c.name = d.name
  type_eq : c.type = columnType d
  primaryKey_iff : c.primaryKey = true ↔
    d.marks.primaryKey = true ∨ IsListed .primaryKey (TableConstraint.ofStatement v) cs i
  unique_iff : c.unique = true ↔ d.marks.unique = true ∨ d.marks.primaryKey = true ∨
    IsListed .primaryKey (TableConstraint.ofStatement v) cs i ∨ IsListed .unique (TableConstraint.ofStatement v) cs i

/-- A table has one column for each description of its statement that defines one, in order. -/
theorem IsTakenFrom.columns {before : List Value} {v : Value} {t : Table} (h : IsTakenFrom before v t) :
    (columnItems v).length = t.columns.length ∧
      ∀ i item c, (columnItems v)[i]? = some item → t.columns[i]? = some c →
        ∃ d, definition? item = some d ∧ IsDescribed v t.columns i d c := by
  obtain ⟨n, m, source, hsource, rfl⟩ := h.source_eq
  obtain ⟨ds, hdefinitions, -, -, -, -, hcolumns⟩ := exists_of_source? hsource
  have hitems := forall₂_definitions hdefinitions
  have hdefined := forall₂_columns ds n
  have hmarked := areMarked_applyConstraints (Extraction.columns n ds) (TableConstraint.ofStatement v)
  rw [← hcolumns] at hmarked
  refine ⟨hitems.length_eq.trans (hdefined.length_eq.trans hmarked.length_eq.symm), fun i item c hitem hc => ?_⟩
  have hlisted (kind : ConstraintKind) : IsListed kind (TableConstraint.ofStatement v) source.table.columns i ↔
      IsListed kind (TableConstraint.ofStatement v) (Extraction.columns n ds) i := by
    simp only [IsListed, place_eq_of_names hmarked.names_eq]
  obtain ⟨d, hd, hdefinition⟩ := exists_getElem?_of_forall₂ hitems hitem
  obtain ⟨b, hb, hdefined⟩ := exists_getElem?_of_forall₂ hdefined hd
  obtain ⟨c', hc', hmarked⟩ := hmarked.each i b hb
  obtain rfl : c' = c := Option.some.inj (hc'.symm.trans hc)
  refine ⟨d, hdefinition, hmarked.name_eq.trans hdefined.name_eq, hmarked.type_eq.trans hdefined.type_eq, ?_, ?_⟩
  · rw [hmarked.primaryKey_iff, hdefined.primaryKey_eq, hlisted]
  · rw [hmarked.unique_iff, hdefined.unique_eq, hlisted, hlisted, Bool.or_eq_true, or_assoc]

end Extraction

end SchemaDesk
