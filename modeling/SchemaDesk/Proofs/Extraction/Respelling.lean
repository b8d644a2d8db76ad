import SchemaDesk.Extraction
import SchemaDesk.Proofs.Definition.Respelling

/-!
Statements in which names are spelled in another letter case. Whatever spelling the constraints, references and
alterations use for the tables and columns that they mean, the schema is the same.
-/

namespace SchemaDesk

open Value

/-! ### What counts of a source and of a foreign key -/

/-- The source with the names in lower case by which it refers to tables and columns. -/
def TableSource.caseless (s : TableSource) : TableSource :=
  { s with
    constraints := s.constraints.map (·.caseless)
    inline := s.inline.map fun r => (Text.lower r.1, r.2.caseless) }

def ForeignKey.caseless (k : ForeignKey) : ForeignKey :=
  { k with
    column := Text.lower k.column
    targetTable := Text.lower k.targetTable
    targetColumn := Text.lower k.targetColumn }

namespace Extraction

/-- A foreign key of a table with its names in lower case. -/
def caselessKey (key : TableSource × ForeignKey) : TableSource × ForeignKey := (key.1.caseless, key.2.caseless)

theorem findColumn?_congr {a b : String} (h : Text.lower a = Text.lower b) (t : Table) :
    t.findColumn? a = t.findColumn? b := by
  simp only [Table.findColumn?, Text.sameName, h]

theorem map_caseless_findSource? (sources : List TableSource) (name : String) :
    (findSource? sources name).map (·.caseless) = findSource? (sources.map (·.caseless)) name := by
  rw [findSource?, findSource?, List.find?_map]
  rfl

theorem findSource?_caseless {sources sources' : List TableSource} {a b : String}
    (h : sources'.map (·.caseless) = sources.map (·.caseless)) (hname : Text.lower b = Text.lower a) :
    (findSource? sources' b).map (·.caseless) = (findSource? sources a).map (·.caseless) := by
  rw [map_caseless_findSource?, map_caseless_findSource?, h]
  simp only [findSource?, Text.sameName, hname]

theorem constraintKey?_caseless (k : TableConstraint) :
    constraintKey? k.caseless = (constraintKey? k).map (·.caseless) := by
  obtain ⟨kind, columns, name, reference, extra⟩ := k
  by_cases hkind : kind = .foreignKey
  · cases reference with
    | none => simp [constraintKey?, TableConstraint.caseless]
    | some r =>
      cases columns with
      | nil => simp [constraintKey?, TableConstraint.caseless]
      | cons c cs =>
        simp [constraintKey?, TableConstraint.caseless, hkind, TableReference.caseless, ForeignKey.caseless,
          Function.comp_def]
  · simp [constraintKey?, TableConstraint.caseless, hkind]

theorem ownKeys_caseless (s : TableSource) : ownKeys s.caseless = (ownKeys s).map (·.caseless) := by
  have hconstraints : s.caseless.constraints.filterMap constraintKey? =
      (s.constraints.filterMap constraintKey?).map (·.caseless) := by
    rw [TableSource.caseless, List.filterMap_map, List.map_filterMap]
    exact List.filterMap_congr fun k _ => constraintKey?_caseless k
  have hinline : s.caseless.inline.map inlineKey = (s.inline.map inlineKey).map (·.caseless) := by
    rw [TableSource.caseless, List.map_map, List.map_map]
    rfl
  rw [ownKeys, ownKeys, List.map_append, hconstraints, hinline]

/-- Foreign keys that differ in spelling only ask for the same relation. -/
theorem relation?_congr {sources sources' : List TableSource} {s s' : TableSource} {k k' : ForeignKey}
    (hsources : sources'.map (·.caseless) = sources.map (·.caseless)) (hs : s'.caseless = s.caseless)
    (hk : k'.caseless = k.caseless) (serial : Nat) :
    relation? sources' serial s' k' = relation? sources serial s k := by
  have htable : s'.table = s.table := (congrArg TableSource.table hs :)
  have hcolumn : Text.lower k'.column = Text.lower k.column := congrArg ForeignKey.column hk
  have hactions : k'.actions = k.actions := (congrArg ForeignKey.actions hk :)
  have hname : k'.name = k.name := (congrArg ForeignKey.name hk :)
  have htargetColumn : Text.lower k'.targetColumn = Text.lower k.targetColumn := congrArg ForeignKey.targetColumn hk
  have htarget := findSource?_caseless hsources (congrArg ForeignKey.targetTable hk :)
  rw [relation?, relation?, htable, findColumn?_congr hcolumn, hactions, hname]
  cases hfound : findSource? sources k.targetTable with
  | none =>
    rw [hfound] at htarget
    rw [Option.map_eq_none_iff.mp htarget]
    rfl
  | some target =>
    rw [hfound] at htarget
    obtain ⟨target', htarget', hcaseless⟩ := Option.map_eq_some_iff.mp htarget
    have htargetTable : target'.table = target.table := (congrArg TableSource.table hcaseless :)
    simp only [htarget', htargetTable, findColumn?_congr htargetColumn, Option.bind_eq_bind, Option.bind_some]

theorem relations_congr {sources sources' : List TableSource}
    (hsources : sources'.map (·.caseless) = sources.map (·.caseless)) {keys keys' : List (TableSource × ForeignKey)}
    (hkeys : keys'.map caselessKey = keys.map caselessKey) (serial : Nat) (found : List Relation) :
    relations sources' serial found keys' = relations sources serial found keys := by
  induction keys generalizing keys' serial found with
  | nil =>
    obtain rfl := List.map_eq_nil_iff.mp hkeys
    rfl
  | cons key keys ih =>
    obtain ⟨key', rest, rfl, hkey, hrest⟩ := List.map_eq_cons_iff.mp hkeys
    obtain ⟨hs, hk⟩ := Prod.mk.inj hkey
    rw [relations, relations, relation?_congr hsources hs hk]
    cases relation? sources serial key.1 key.2 with
    | none => exact ih hrest _ _
    | some r => exact ih hrest _ _

/-! ### Tables -/

theorem changeColumn_congr {a b : String} (h : Text.lower b = Text.lower a) (change : Column → Column)
    (cs : List Column) : changeColumn b change cs = changeColumn a change cs := by
  induction cs with
  | nil => rfl
  | cons c cs ih =>
    have hsame : Text.sameName c.name b = Text.sameName c.name a := by rw [Text.sameName, Text.sameName, h]
    rw [changeColumn, changeColumn, hsame, ih]

theorem foldl_changeColumn_congr {names names' : List String} (h : names'.map Text.lower = names.map Text.lower)
    (change : Column → Column) (cs : List Column) :
    names'.foldl (fun cs name => changeColumn name change cs) cs =
      names.foldl (fun cs name => changeColumn name change cs) cs := by
  induction names generalizing names' cs with
  | nil =>
    obtain rfl := List.map_eq_nil_iff.mp h
    rfl
  | cons name names ih =>
    obtain ⟨name', rest, rfl, hname, hrest⟩ := List.map_eq_cons_iff.mp h
    rw [List.foldl_cons, List.foldl_cons, changeColumn_congr hname, ih hrest]

/-- Constraints mark the same columns in every spelling. -/
theorem applyConstraints_congr {ks ks' : List TableConstraint} (h : ks'.map (·.caseless) = ks.map (·.caseless))
    (cs : List Column) : applyConstraints cs ks' = applyConstraints cs ks := by
  have happly {k k' : TableConstraint} (hk : k'.caseless = k.caseless) (cs : List Column) :
      applyConstraint cs k' = applyConstraint cs k := by
    have hkind : k'.kind = k.kind := (congrArg TableConstraint.kind hk :)
    have hcolumns : k'.columns.map Text.lower = k.columns.map Text.lower := congrArg TableConstraint.columns hk
    rw [applyConstraint, applyConstraint, hkind]
    split
    · exact foldl_changeColumn_congr hcolumns markKey cs
    · exact foldl_changeColumn_congr hcolumns markUnique cs
    · rfl
  unfold applyConstraints
  induction ks generalizing ks' cs with
  | nil =>
    obtain rfl := List.map_eq_nil_iff.mp h
    rfl
  | cons k ks ih =>
    obtain ⟨k', rest, rfl, hk, hrest⟩ := List.map_eq_cons_iff.mp h
    rw [List.foldl_cons, List.foldl_cons, happly hk, ih hrest]

theorem columns_caseless (ds : List ColumnDefinition) (serial : Nat) :
    columns serial (ds.map (·.caseless)) = columns serial ds := by
  induction ds generalizing serial with
  | nil => rfl
  | cons d ds ih => rw [List.map_cons, columns, columns, ih]; rfl

theorem map_caseless_definitions_cons (v : Value) (vs : List Value) :
    (definitions (v :: vs)).map (List.map (·.caseless)) =
      match (ColumnDefinition.ofValue? v).map (Option.map (·.caseless)) with
      | .error e => .error e
      | .ok d => ((definitions vs).map (List.map (·.caseless))).map fun ds => d.toList ++ ds := by
  rw [definitions]
  generalize ColumnDefinition.ofValue? v = d, definitions vs = ds
  cases d with
  | error e => simp only [Except.map]
  | ok d =>
    cases ds with
    | error e => simp only [Except.map]
    | ok ds => cases d <;> simp [Except.map]

theorem definitions_respelled {vs ws : List Value} (h : List.Forall₂ ItemRespelled vs ws) :
    (definitions ws).map (List.map (·.caseless)) = (definitions vs).map (List.map (·.caseless)) := by
  induction h with
  | nil => rfl
  | cons hvw _ ih =>
    rw [map_caseless_definitions_cons, map_caseless_definitions_cons, ColumnDefinition.map_caseless_ofValue? hvw, ih]

/-! ### Statements -/

/-- What may change in a statement that creates a table. -/
structure CreationField (key : String) (v w : Value) : Prop where
  key_mem : key ∈ ["constraint", "create_definitions", "create_definition"]
  items : ItemsRelated ItemRespelled v w

/-- What may change in what an alteration adds: the constraint that it is, or those that it may hold. -/
inductive AdditionField (key : String) (v w : Value) : Prop
  | own (hkey : key ≠ "constraint") (h : ItemField key v w)
  | held (hkey : key ∈ ["create_definitions", "constraint"]) (h : ItemRespelled v w)

/-- What may change in a statement that alters a table: the name of the table, and what is added to it. -/
inductive AlterationField (key : String) (v w : Value) : Prop
  | table (hkey : key = "table") (h : NamesRespelled v w)
  | additions (hkey : key = "expr") (h : ItemsRelated (FieldsRelated AdditionField) v w)

/-- The same statement, but that constraints, references and alterations may spell in another letter case the names of
the tables and columns that they mean. -/
inductive StatementRespelled (v w : Value) : Prop
  | same (h : w = v)
  | creation (hv : createsTable v = true) (h : FieldsRelated CreationField v w)
  | alteration (hv : altersTable v = true) (h : FieldsRelated AlterationField v w)

section Creation

variable {v w : Value} (h : FieldsRelated CreationField v w)

include h

theorem items_respelled (name : String) : ItemsRelated ItemRespelled (v.get name) (w.get name) :=
  h.get_related .refl fun _ _ hfield => hfield.items

theorem get_eq_of_creation {name : String} (hname : name ∉ ["constraint", "create_definitions", "create_definition"]) :
    w.get name = v.get name :=
  h.get_eq fun _ _ hfield => hname hfield.key_mem

theorem columnDescriptions_respelled : List.Forall₂ ItemRespelled (columnDescriptions v) (columnDescriptions w) := by
  have hfirst : ItemsRelated ItemRespelled (firstOf [v.get "create_definitions", v.get "create_definition"])
      (firstOf [w.get "create_definitions", w.get "create_definition"]) :=
    firstOf_related (.refl null) (fun _ _ h => h.isNull_eq)
      (.cons (items_respelled h _) (.cons (items_respelled h _) .nil))
  refine List.rel_filter (fun a b hab => ?_) (hfirst.forall₂_asList .refl)
  have hresource : b.get "resource" = a.get "resource" := hab.get_eq fun _ _ hfield => absurd hfield.mem (by decide)
  have hcolumn : b.get "column" = a.get "column" := hab.get_eq fun _ _ hfield => absurd hfield.mem (by decide)
  simp only [hasText, hresource, hcolumn, hab.isRecord_eq]

theorem ofStatement_respelled :
    (TableConstraint.ofStatement w).map (·.caseless) = (TableConstraint.ofStatement v).map (·.caseless) := by
  have hitems (name : String) : List.Forall₂ ItemRespelled (v.get name).asList (w.get name).asList :=
    (items_respelled h name).forall₂_asList .refl
  rw [TableConstraint.ofStatement, TableConstraint.ofStatement, List.map_filterMap, List.map_filterMap]
  refine filterMap_eq_of_forall₂ (R := ItemRespelled) ?_ fun a b hab =>
    TableConstraint.map_caseless_ofValue? hab fun _ _ _ => Or.inl
  simp only [List.flatMap_cons, List.flatMap_nil]
  exact List.rel_append (hitems _) (List.rel_append (hitems _) (List.rel_append (hitems _) .nil))

end Creation

theorem map_caseless_inline (ds : List ColumnDefinition) :
    (ds.filterMap fun d => d.reference.map fun r => (d.name, r)).map (fun r => (Text.lower r.1, r.2.caseless)) =
      (ds.map (·.caseless)).filterMap fun d => d.reference.map fun r => (Text.lower d.name, r) := by
  rw [List.map_filterMap, List.filterMap_map]
  refine List.filterMap_congr fun d _ => ?_
  rw [Option.map_map, Function.comp_apply, ColumnDefinition.caseless, Option.map_map]
  rfl

/-- The source of a statement with what counts of it, and the next serial. -/
def caselessSource (p : TableSource × Nat) : TableSource × Nat := (p.1.caseless, p.2)

/-- Of the definitions in a statement, only the names of their references count without their letter case. -/
theorem map_caseless_source? (serial : Nat) (name : String) (v : Value) :
    (source? serial name v).map (Option.map caselessSource) =
      ((definitions (columnDescriptions v)).map (List.map (·.caseless))).map fun ds =>
        if ds.isEmpty then none
        else
          let table : Table :=
            { id := .fresh (serial + ds.length)
              name := name
              columns := applyConstraints (columns serial ds) (TableConstraint.ofStatement v) }
          some (⟨table, (TableConstraint.ofStatement v).map (·.caseless),
            ds.filterMap fun d => d.reference.map fun r => (Text.lower d.name, r)⟩, serial + ds.length + 1) := by
  rw [source?]
  generalize definitions (columnDescriptions v) = ds
  cases ds with
  | error e => simp only [Except.map]
  | ok ds =>
    simp only [Except.map, List.isEmpty_map, List.length_map, columns_caseless, ← map_caseless_inline]
    split
    · rfl
    · rfl

theorem source?_respelled {v w : Value} (h : FieldsRelated CreationField v w) (serial : Nat) (name : String) :
    (source? serial name w).map (Option.map caselessSource) =
      (source? serial name v).map (Option.map caselessSource) := by
  have hconstraints := ofStatement_respelled h
  simp only [map_caseless_source?, definitions_respelled (columnDescriptions_respelled h), hconstraints,
    applyConstraints_congr hconstraints]

theorem not_altersTable_of_createsTable {v : Value} (h : createsTable v = true) : altersTable v = false := by
  simp only [createsTable, hasText, Bool.and_eq_true] at h
  simp only [altersTable, hasText]
  split at h
  · next s hs =>
    obtain rfl : s = "create" := by simpa using h.1
    rfl
  · cases h.1

namespace StatementRespelled

variable {v w : Value}

theorem createsTable_eq (h : StatementRespelled v w) :
    createsTable w = createsTable v ∧ altersTable w = altersTable v := by
  have hkept : w.get "type" = v.get "type" ∧ w.get "keyword" = v.get "keyword" := by
    cases h with
    | same h => rw [h]; exact ⟨rfl, rfl⟩
    | creation _ h => exact ⟨get_eq_of_creation h (by decide), get_eq_of_creation h (by decide)⟩
    | alteration _ h =>
      constructor <;> refine h.get_eq fun a b hfield => ?_ <;>
        rcases hfield with ⟨hkey, -⟩ | ⟨hkey, -⟩ <;> exact absurd hkey (by decide)
  simp only [createsTable, altersTable, hasText, hkept.1, hkept.2, and_self]

/-- A statement that creates a table gives the same source. -/
theorem source?_eq (h : StatementRespelled v w) (hv : createsTable v = true) :
    tableName? w = tableName? v ∧ ∀ serial name,
      (source? serial name w).map (Option.map caselessSource) =
        (source? serial name v).map (Option.map caselessSource) := by
  cases h with
  | same h => rw [h]; exact ⟨rfl, fun _ _ => rfl⟩
  | creation _ h =>
    refine ⟨?_, source?_respelled h⟩
    rw [tableName?, tableName?, get_eq_of_creation h (by decide)]
  | alteration halters => rw [not_altersTable_of_createsTable hv] at halters; cases halters

end StatementRespelled

theorem sourcesFrom_respelled {vs ws : List Value} (h : List.Forall₂ StatementRespelled vs ws) :
    ∀ (serial : Nat) (found found' : List TableSource), found'.map (·.caseless) = found.map (·.caseless) →
      (sourcesFrom serial found' ws).map (Prod.map (List.map (·.caseless)) id) =
        (sourcesFrom serial found vs).map (Prod.map (List.map (·.caseless)) id) := by
  induction h with
  | nil =>
    intro serial found found' hfound
    simp only [sourcesFrom, Except.map, Prod.map_apply, hfound]
  | @cons v w vs ws hvw _ ih =>
    intro serial found found' hfound
    rw [sourcesFrom, sourcesFrom, hvw.createsTable_eq.1]
    cases hcreates : createsTable v with
    | false => exact ih serial _ _ hfound
    | true =>
      obtain ⟨hname, hsource⟩ := hvw.source?_eq hcreates
      simp only [if_true, hname]
      cases tableName? v with
      | none => exact ih serial _ _ hfound
      | some name =>
        have hknown : (findSource? found' name).isSome = (findSource? found name).isSome := by
          rw [← Option.isSome_map (f := TableSource.caseless), findSource?_caseless hfound rfl, Option.isSome_map]
        have hfrom := hsource serial name
        dsimp only
        rw [hknown]
        split
        · exact ih serial _ _ hfound
        · generalize source? serial name v = x, source? serial name w = y at hfrom
          cases x with
          | error e =>
            cases y with
            | error e' =>
              obtain rfl : e' = e := Except.error.inj hfrom
              rfl
            | ok y => cases hfrom
          | ok x =>
            cases y with
            | error e => cases hfrom
            | ok y =>
              have hsame : y.map caselessSource = x.map caselessSource := Except.ok.inj hfrom
              cases x with
              | none =>
                obtain rfl := Option.map_eq_none_iff.mp hsame
                exact ih serial _ _ hfound
              | some p =>
                obtain ⟨s, n⟩ := p
                obtain ⟨⟨s', m⟩, rfl, hp⟩ := Option.map_eq_some_iff.mp hsame
                obtain ⟨hs, rfl⟩ := Prod.mk.inj hp
                refine ih m _ _ ?_
                rw [List.map_append, List.map_append, hfound, List.map_singleton, List.map_singleton, hs]

/-! ### Alterations -/

theorem map_findSome?_congr {α β γ : Type} {R : α → α → Prop} {f : α → Option β} {g : β → γ} {as bs : List α}
    (h : List.Forall₂ R as bs) (hf : ∀ a b, R a b → (f b).map g = (f a).map g) :
    (bs.findSome? f).map g = (as.findSome? f).map g := by
  induction h with
  | nil => rfl
  | @cons a b as bs hab _ ih =>
    have hfirst := hf a b hab
    rw [List.findSome?_cons, List.findSome?_cons]
    cases hb : f b <;> cases ha : f a <;> simp_all

theorem additions_respelled {v w : Value} (h : FieldsRelated AdditionField v w) :
    List.Forall₂
      (fun a b => (TableConstraint.ofValue? b).map (·.caseless) = (TableConstraint.ofValue? a).map (·.caseless))
      [v, v.get "create_definitions", v.get "constraint"] [w, w.get "create_definitions", w.get "constraint"] := by
  have hown : (TableConstraint.ofValue? w).map (·.caseless) = (TableConstraint.ofValue? v).map (·.caseless) := by
    refine TableConstraint.map_caseless_ofValue? h fun key a b hfield => ?_
    cases hfield with
    | own _ hitem => exact Or.inl hitem
    | held hkey => exact Or.inr hkey
  have hheld : ∀ name ∈ ["create_definitions", "constraint"], ItemRespelled (v.get name) (w.get name) := by
    intro name hname
    refine h.get_related .refl fun a b hfield => ?_
    cases hfield with
    | own hkey hitem =>
      rcases List.mem_pair.mp hname with rfl | rfl
      · exact absurd hitem.mem (by decide)
      · exact (hkey rfl).elim
    | held _ h => exact h
  have hitem (name : String) (hname : name ∈ ["create_definitions", "constraint"]) :=
    TableConstraint.map_caseless_ofValue? (hheld name hname) fun _ _ _ => Or.inl
  exact .cons hown (.cons (hitem _ (by simp)) (.cons (hitem _ (by simp)) .nil))

theorem addedKey?_respelled {v w : Value} (h : FieldsRelated AdditionField v w) :
    (addedKey? w).map (·.caseless) = (addedKey? v).map (·.caseless) := by
  have hkept : ∀ name ∈ ["action", "keyword"], w.get name = v.get name := by
    have hapart : ∀ name ∈ ["action", "keyword"], name ∉ ["create_definitions", "constraint"] ∧ name ∉ itemKeys := by
      decide
    refine fun name hname => h.get_eq fun a b hfield => ?_
    cases hfield with
    | own _ hitem => exact (hapart name hname).2 hitem.mem
    | held hkey => exact (hapart name hname).1 hkey
  have hfilter (o : Option TableConstraint) :
      (o.filter fun k => k.kind == .foreignKey && k.reference.isSome).map (·.caseless) =
        (o.map (·.caseless)).filter fun k => k.kind == .foreignKey && k.reference.isSome := by
    cases o with
    | none => rfl
    | some k =>
      have hreference : k.caseless.reference.isSome = k.reference.isSome := Option.isSome_map
      rw [Option.map_some, Option.filter_some, Option.filter_some, hreference]
      exact apply_ite (Option.map TableConstraint.caseless) _ _ _
  have hbind (o : Option TableConstraint) :
      (o.bind constraintKey?).map (·.caseless) = (o.map (·.caseless)).bind constraintKey? := by
    cases o with
    | none => rfl
    | some k => exact (constraintKey?_caseless k).symm
  have hfound := map_findSome?_congr (additions_respelled h)
    (f := fun item => (TableConstraint.ofValue? item).filter fun k => k.kind == .foreignKey && k.reference.isSome)
    (g := TableConstraint.caseless) fun a b hab => by rw [hfilter, hfilter, hab]
  simp only [addedKey?, h.isRecord_eq, hkept "action" (by simp), hkept "keyword" (by simp)]
  split
  · rw [hbind, hbind, hfound]
  · rfl

theorem alteration_respelled {v w : Value} (h : FieldsRelated AlterationField v w) :
    Text.lower ((tableName? w).getD "") = Text.lower ((tableName? v).getD "") ∧
      ((w.get "expr").asList.filterMap addedKey?).map (·.caseless) =
        ((v.get "expr").asList.filterMap addedKey?).map (·.caseless) := by
  have htable : SameNames (v.get "table") (w.get "table") := by
    refine h.get_related .refl fun a b hfield => ?_
    cases hfield with
    | table _ h => exact sameNames_of_namesRespelled h
    | additions hkey => exact absurd hkey (by decide)
  have hadditions : ItemsRelated (FieldsRelated AdditionField) (v.get "expr") (w.get "expr") := by
    refine h.get_related .refl fun a b hfield => ?_
    cases hfield with
    | table hkey => exact absurd hkey (by decide)
    | additions _ h => exact h
  constructor
  · have hname : (tableName? w).map Text.lower = (tableName? v).map Text.lower := htable.first.name_eq
    have hlower (name : Option String) : Text.lower (name.getD "") = (name.map Text.lower).getD (Text.lower "") := by
      cases name <;> rfl
    rw [hlower, hlower, hname]
  · rw [List.map_filterMap, List.map_filterMap]
    exact filterMap_eq_of_forall₂ (hadditions.forall₂_asList .refl) fun _ _ => addedKey?_respelled

theorem alteredKeys_respelled {sources sources' : List TableSource}
    (hsources : sources'.map (·.caseless) = sources.map (·.caseless)) {v w : Value} (h : StatementRespelled v w) :
    (alteredKeys sources' w).map caselessKey = (alteredKeys sources v).map caselessKey := by
  rw [alteredKeys, alteredKeys, h.createsTable_eq.2]
  split
  · next halters =>
    obtain ⟨hname, hadded⟩ : Text.lower ((tableName? w).getD "") = Text.lower ((tableName? v).getD "") ∧
        ((w.get "expr").asList.filterMap addedKey?).map (·.caseless) =
          ((v.get "expr").asList.filterMap addedKey?).map (·.caseless) := by
      cases h with
      | same h => rw [h]; exact ⟨rfl, rfl⟩
      | creation hcreates => rw [not_altersTable_of_createsTable hcreates] at halters; cases halters
      | alteration _ h => exact alteration_respelled h
    have hfind := findSource?_caseless hsources hname
    cases hfound : findSource? sources ((tableName? v).getD "") with
    | none =>
      rw [hfound] at hfind
      rw [Option.map_eq_none_iff.mp hfind]
    | some s =>
      rw [hfound] at hfind
      obtain ⟨s', hs', hcaseless⟩ := Option.map_eq_some_iff.mp hfind
      have hpair (s : TableSource) (ks : List ForeignKey) :
          (ks.map fun k => (s, k)).map caselessKey = (ks.map (·.caseless)).map fun k => (s.caseless, k) := by
        rw [List.map_map, List.map_map]
        rfl
      rw [hs']
      dsimp only
      rw [hpair, hpair, hadded, hcaseless]
  · rfl

theorem foreignKeys_respelled {sources sources' : List TableSource}
    (hsources : sources'.map (·.caseless) = sources.map (·.caseless)) {vs ws : List Value}
    (h : List.Forall₂ StatementRespelled vs ws) :
    (foreignKeys sources' ws).map caselessKey = (foreignKeys sources vs).map caselessKey := by
  have hown (sources : List TableSource) : (sources.flatMap fun s => (ownKeys s).map fun k => (s, k)).map caselessKey =
      (sources.map (·.caseless)).flatMap fun s => (ownKeys s).map fun k => (s, k) := by
    rw [List.map_flatMap, List.flatMap_map]
    refine List.flatMap_congr fun s _ => ?_
    rw [ownKeys_caseless, List.map_map, List.map_map]
    rfl
  have haltered : (ws.flatMap (alteredKeys sources')).map caselessKey =
      (vs.flatMap (alteredKeys sources)).map caselessKey := by
    induction h with
    | nil => rfl
    | cons hvw _ ih =>
      rw [List.flatMap_cons, List.flatMap_cons, List.map_append, List.map_append, alteredKeys_respelled hsources hvw,
        ih]
  rw [foreignKeys, foreignKeys, List.map_append, List.map_append, hown, hown, hsources, haltered]

/-- The schema of statements does not depend on the letter case in which constraints, references and alterations spell
the names of the tables and columns that they mean. -/
theorem ofStatements_respelled {vs ws : List Value} (h : List.Forall₂ StatementRespelled vs ws) (serial : Nat) :
    Schema.ofStatements serial ws = Schema.ofStatements serial vs := by
  have hsources := sourcesFrom_respelled h serial [] [] rfl
  rw [Schema.ofStatements, Schema.ofStatements]
  generalize sourcesFrom serial [] vs = x, sourcesFrom serial [] ws = y at hsources
  cases x with
  | error e =>
    cases y with
    | error e' =>
      obtain rfl : e' = e := Except.error.inj hsources
      rfl
    | ok y => cases hsources
  | ok x =>
    cases y with
    | error e => cases hsources
    | ok y =>
      obtain ⟨sources, n⟩ := x
      obtain ⟨sources', m⟩ := y
      obtain ⟨hsame, rfl⟩ := Prod.mk.inj (Except.ok.inj hsources)
      have htables : sources'.map (·.table) = sources.map (·.table) := by
        have htable := congrArg (List.map TableSource.table) hsame
        rwa [List.map_map, List.map_map] at htable
      simp only [Except.map, htables, relations_congr hsame (foreignKeys_respelled hsame h), id_eq]

def referenceTo (table column : String) : Value :=
  .record [("table", .list [.record [("table", .text table)]]), ("definition", .list [.text column])]

/-- Users with a key and unique addresses, orders of users, and who pays for an order. The parameters are the names by
which constraints, references and alterations mean the tables and columns. -/
def shop (users id email orders payer : String) : List Value :=
  let column (name : String) (rest : List (String × Value)) : Value :=
    .record ([("column", .text name), ("definition", .record [("dataType", .text "INT")])] ++ rest)
  [.record [("type", .text "create"), ("keyword", .text "table"), ("table", .text "users"),
      ("create_definitions", .list [column "id" [], column "email" [],
        .record [("constraint_type", .text "PRIMARY KEY"), ("definition", .list [.record [("column", .text id)]])],
        .record [("constraint_type", .text "UNIQUE"), ("columns", .text email)]])],
    .record [("type", .text "create"), ("keyword", .text "table"), ("table", .text "orders"),
      ("create_definitions", .list [
        column "owner" [("reference_definition", referenceTo users id)], column "payer" []])],
    .record [("type", .text "alter"), ("table", .text orders), ("expr", .list [
      .record [("action", .text "add"), ("create_definitions", .record [("constraint_type", .text "FOREIGN KEY"),
        ("definition", .list [.text payer]), ("reference_definition", referenceTo users id)])]])]]

theorem forall₂_statementRespelled_shop : List.Forall₂ StatementRespelled (shop "users" "id" "email" "orders" "payer")
    (shop "USERS" "Id" "EMail" "Orders" "PAYER") := by
  have husers : NameRespelled (.text "users") (.text "USERS") := .name rfl rfl (by decide) (by decide +kernel)
  have hid : NameRespelled (.text "id") (.text "Id") := .name rfl rfl (by decide) (by decide +kernel)
  have hemail : NameRespelled (.text "email") (.text "EMail") := .name rfl rfl (by decide) (by decide +kernel)
  have horders : NameRespelled (.text "orders") (.text "Orders") := .name rfl rfl (by decide) (by decide +kernel)
  have hpayer : NameRespelled (.text "payer") (.text "PAYER") := .name rfl rfl (by decide) (by decide +kernel)
  have hreference : ReferenceRespelled (referenceTo "users" "id") (referenceTo "USERS" "Id") := by
    have htable : NameRespelled (.record [("table", .text "users")]) (.record [("table", .text "USERS")]) :=
      husers.field [] [] (by decide)
    exact .record (.cons ⟨rfl, Or.inr ⟨by decide, .list (.cons htable .nil)⟩⟩
      (.cons ⟨rfl, Or.inr ⟨by decide, .list (.cons hid .nil)⟩⟩ .nil))
  have hcolumn : NameRespelled (.record [("column", .text "id")]) (.record [("column", .text "Id")]) :=
    hid.field [] [] (by decide)
  have hkey := FieldsRelated.middle (R := ItemField) [("constraint_type", .text "PRIMARY KEY")] "definition" []
    (.names (by decide) (.list (.cons hcolumn .nil)))
  have hunique := FieldsRelated.middle (R := ItemField) [("constraint_type", .text "UNIQUE")] "columns" []
    (.names (by decide) (.one rfl rfl hemail))
  have howner := FieldsRelated.middle (R := ItemField)
    [("column", .text "owner"), ("definition", .record [("dataType", .text "INT")])] "reference_definition" []
    (.reference (by decide) hreference)
  have hforeign : ItemRespelled
      (.record [("constraint_type", .text "FOREIGN KEY"), ("definition", .list [.text "payer"]),
        ("reference_definition", referenceTo "users" "id")])
      (.record [("constraint_type", .text "FOREIGN KEY"), ("definition", .list [.text "PAYER"]),
        ("reference_definition", referenceTo "USERS" "Id")]) :=
    .record (.cons ⟨rfl, Or.inl rfl⟩ (.cons ⟨rfl, Or.inr (.names (by decide) (.list (.cons hpayer .nil)))⟩
      (.cons ⟨rfl, Or.inr (.reference (by decide) hreference)⟩ .nil)))
  have hadd := FieldsRelated.middle (R := AdditionField) [("action", .text "add")] "create_definitions" []
    (.held (by decide) hforeign)
  refine .cons (.creation rfl ?_) (.cons (.creation rfl ?_) (.cons (.alteration rfl ?_) .nil))
  · exact .middle [_, _, _] _ []
      ⟨by decide, .list (.cons (.refl _) (.cons (.refl _) (.cons hkey (.cons hunique .nil))))⟩
  · exact .middle [_, _, _] _ [] ⟨by decide, .list (.cons howner (.cons (.refl _) .nil))⟩
  · exact .record (.cons ⟨rfl, Or.inl rfl⟩ (.cons ⟨rfl, Or.inr (.table rfl (.one rfl rfl horders))⟩
      (.cons ⟨rfl, Or.inr (.additions rfl (.list (.cons hadd .nil)))⟩ .nil)))

theorem ofStatements_respelled_shop :
    List.Forall₂ StatementRespelled (shop "users" "id" "email" "orders" "payer")
        (shop "USERS" "Id" "EMail" "Orders" "PAYER") ∧
      Schema.ofStatements 0 (shop "USERS" "Id" "EMail" "Orders" "PAYER") =
        Schema.ofStatements 0 (shop "users" "id" "email" "orders" "payer") ∧
      ∃ s next, Schema.ofStatements 0 (shop "users" "id" "email" "orders" "payer") = .ok (s, next) ∧
        s.tables.length = 2 ∧ s.relations.length = 2 :=
  ⟨forall₂_statementRespelled_shop, ofStatements_respelled forall₂_statementRespelled_shop 0, _, _, rfl, rfl, rfl⟩

end Extraction

end SchemaDesk
