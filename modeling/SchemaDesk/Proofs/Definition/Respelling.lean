import Mathlib.Data.List.Forall2
import Mathlib.Tactic.Common
import SchemaDesk.Definition.Column
import SchemaDesk.Definition.Constraint

/-!
Descriptions in which names are spelled in another letter case. A name may be exchanged wherever one refers to a table
or to a column: in the constraints of a table, and in the references that stand with a column. What is read of such a
description is the same but for the spelling of these names.
-/

namespace SchemaDesk

theorem filterMap_eq_of_forall₂ {α β : Type} {R : α → α → Prop} {f : α → Option β} {as bs : List α}
    (h : List.Forall₂ R as bs) (hf : ∀ a b, R a b → f b = f a) : bs.filterMap f = as.filterMap f := by
  induction h with
  | nil => rfl
  | cons hab _ ih => rw [List.filterMap_cons, List.filterMap_cons, hf _ _ hab, ih]

namespace Value

/-! ### Related values -/

/-- Equal values, or records of the same fields in the same order, with values that are equal or related. -/
inductive FieldsRelated (R : String → Value → Value → Prop) : Value → Value → Prop
  | refl (v : Value) : FieldsRelated R v v
  | record {fs gs : List (String × Value)}
      (h : List.Forall₂ (fun f g => g.1 = f.1 ∧ (g.2 = f.2 ∨ R f.1 f.2 g.2)) fs gs) :
      FieldsRelated R (.record fs) (.record gs)

/-- Equal values, related single values, or lists of related items. -/
inductive ItemsRelated (R : Value → Value → Prop) : Value → Value → Prop
  | refl (v : Value) : ItemsRelated R v v
  | one {v w : Value} (hv : v.asList = [v]) (hw : w.asList = [w]) (h : R v w) : ItemsRelated R v w
  | list {vs ws : List Value} (h : List.Forall₂ R vs ws) : ItemsRelated R (.list vs) (.list ws)

theorem get_record_cons (key : String) (v : Value) (fields : List (String × Value)) (name : String) :
    (record ((key, v) :: fields)).get name = if name == key then v else (record fields).get name := by
  simp only [get, List.lookup_cons]
  cases name == key <;> rfl

namespace FieldsRelated

variable {R : String → Value → Value → Prop} {v w : Value}

theorem get (h : FieldsRelated R v w) (name : String) : w.get name = v.get name ∨ R name (v.get name) (w.get name) := by
  cases h with
  | refl => exact Or.inl rfl
  | record h =>
    induction h with
    | nil => exact Or.inl rfl
    | @cons f g fs gs hfg _ ih =>
      obtain ⟨key, v⟩ := f
      obtain ⟨key', w⟩ := g
      obtain ⟨rfl, hvalue⟩ := hfg
      rw [get_record_cons, get_record_cons]
      cases hname : name == key' with
      | true =>
        obtain rfl := beq_iff_eq.mp hname
        exact hvalue
      | false => exact ih

theorem get_related (h : FieldsRelated R v w) {P : Value → Value → Prop} (hrefl : ∀ v, P v v) {name : String}
    (hR : ∀ a b, R name a b → P a b) : P (v.get name) (w.get name) := by
  rcases h.get name with heq | hrelated
  · rw [heq]
    exact hrefl _
  · exact hR _ _ hrelated

theorem get_eq (h : FieldsRelated R v w) {name : String} (hname : ∀ a b, ¬ R name a b) : w.get name = v.get name :=
  (h.get name).resolve_right (hname _ _)

theorem isRecord_eq (h : FieldsRelated R v w) : w.isRecord = v.isRecord := by
  cases h <;> rfl

theorem isNull_eq (h : FieldsRelated R v w) : w.isNull = v.isNull := by
  cases h <;> rfl

theorem truthy_eq (h : FieldsRelated R v w) : w.truthy = v.truthy := by
  cases h with
  | refl => rfl
  | record h => cases h <;> rfl

end FieldsRelated

namespace ItemsRelated

variable {R : Value → Value → Prop} {v w : Value}

theorem isNull_eq (h : ItemsRelated R v w) : w.isNull = v.isNull := by
  have hsingle : ∀ v : Value, v.asList = [v] → v.isNull = false := by
    rintro (_ | _ | _ | _ | _ | _ | _) h <;> first | rfl | cases h
  cases h with
  | refl => rfl
  | one hv hw => rw [hsingle v hv, hsingle w hw]
  | list => rfl

theorem forall₂_asList (hrefl : ∀ v, R v v) (h : ItemsRelated R v w) : List.Forall₂ R v.asList w.asList := by
  cases h with
  | refl => exact List.forall₂_same.mpr fun x _ => hrefl x
  | one hv hw h =>
    rw [hv, hw]
    exact .cons h .nil
  | list h => exact h

end ItemsRelated

/-- The first values that are there are related if all values are. -/
theorem firstOf_related {P : Value → Value → Prop} (hnull : P null null) (hP : ∀ v w, P v w → w.isNull = v.isNull)
    {vs ws : List Value} (h : List.Forall₂ P vs ws) : P (firstOf vs) (firstOf ws) := by
  induction h with
  | nil => exact hnull
  | @cons v w vs ws hvw _ ih =>
    rw [firstOf, firstOf, hP v w hvw]
    split
    · exact ih
    · exact hvw

/-! ### Names -/

/-- The fields under which a record may hold a name. -/
def nameFields : List String := ["value", "expr", "column", "table", "name"]

/-- The second value is the first one, but that the name which it holds may be spelled in another letter case. -/
inductive NameRespelled : Value → Value → Prop
  | refl (v : Value) : NameRespelled v v
  | name {v : Value} {s t : String} (hv : v.isRecord = false) (hs : v.nameText? = some s) (ht : t ≠ "")
      (hsame : Text.sameName s t = true) : NameRespelled v (.text t)
  | field (before after : List (String × Value)) {key : String} {v w : Value} (hkey : key ∈ nameFields)
      (h : NameRespelled v w) :
      NameRespelled (.record (before ++ (key, v) :: after)) (.record (before ++ (key, w) :: after))

/-- One name or several. -/
abbrev NamesRespelled : Value → Value → Prop := ItemsRelated NameRespelled

/-- The same name whatever its letter case, or none. -/
structure SameName (v w : Value) : Prop where
  isNull_eq : w.isNull = v.isNull
  name_eq : w.nameText?.map Text.lower = v.nameText?.map Text.lower

theorem nameField?_eq (key : String) (fields : List (String × Value)) :
    nameField? key fields = if ((record fields).get key).isNull then none
      else some ((record fields).get key).nameText? := by
  induction fields with
  | nil => rfl
  | cons field fields ih =>
    obtain ⟨name, v⟩ := field
    rw [nameField?, get_record_cons, ih, BEq.comm]
    cases key == name <;> rfl

/-- A record holds the name that is in the first of these fields which is there. -/
theorem nameText?_record (fields : List (String × Value)) :
    (record fields).nameText? = (firstOf (nameFields.map (record fields).get)).nameText? := by
  simp only [nameText?, nameField?_eq, nameFields, List.map_cons, List.map_nil, firstOf]
  -- The first field that is there decides.
  cases ((record fields).get "value").isNull with
  | false => rfl
  | true =>
    cases ((record fields).get "expr").isNull with
    | false => rfl
    | true =>
      cases ((record fields).get "column").isNull with
      | false => rfl
      | true =>
        cases ((record fields).get "table").isNull with
        | false => rfl
        | true => cases ((record fields).get "name").isNull <;> rfl

theorem SameName.refl (v : Value) : SameName v v := ⟨rfl, rfl⟩

theorem SameName.record {fs gs : List (String × Value)}
    (h : ∀ key ∈ nameFields, SameName ((Value.record fs).get key) ((Value.record gs).get key)) :
    SameName (.record fs) (.record gs) := by
  have hfirst : SameName (firstOf (nameFields.map (Value.record fs).get))
      (firstOf (nameFields.map (Value.record gs).get)) :=
    firstOf_related (.refl null) (fun _ _ h => h.isNull_eq)
      (List.forall₂_map_left_iff.mpr (List.forall₂_map_right_iff.mpr (List.forall₂_same.mpr h)))
  refine ⟨rfl, ?_⟩
  rw [nameText?_record, nameText?_record]
  exact hfirst.name_eq

theorem FieldsRelated.sameName {R : String → Value → Value → Prop} {v w : Value} (h : FieldsRelated R v w)
    (hR : ∀ key ∈ nameFields, ∀ a b, R key a b → SameName a b) : SameName v w := by
  have hget : ∀ key ∈ nameFields, SameName (v.get key) (w.get key) :=
    fun key hkey => h.get_related .refl (hR key hkey)
  cases h with
  | refl => exact .refl v
  | record => exact .record hget

/-- Records that differ in one field. -/
theorem FieldsRelated.middle {R : String → Value → Value → Prop} (before : List (String × Value)) (key : String)
    (after : List (String × Value)) {v w : Value} (h : R key v w) :
    FieldsRelated R (.record (before ++ (key, v) :: after)) (.record (before ++ (key, w) :: after)) := by
  have hsame (fs : List (String × Value)) :
      List.Forall₂ (fun f g => g.1 = f.1 ∧ (g.2 = f.2 ∨ R f.1 f.2 g.2)) fs fs :=
    List.forall₂_same.mpr fun f _ => ⟨rfl, Or.inl rfl⟩
  exact .record (List.rel_append (hsame before) (.cons ⟨rfl, Or.inr h⟩ (hsame after)))

namespace NameRespelled

variable {v w : Value}

theorem sameName (h : NameRespelled v w) : SameName v w := by
  induction h with
  | refl v => exact .refl v
  | @name v s t hv hs ht hsame =>
    constructor
    case isNull_eq => cases v <;> first | rfl | cases hs
    case name_eq =>
      have hlower : Text.lower s = Text.lower t := by simpa [Text.sameName] using hsame
      rw [hs, nameText?, if_neg (by simpa using ht), Option.map_some, Option.map_some, hlower]
  | @field before after key v w hkey _ ih =>
    exact FieldsRelated.sameName (R := fun _ a b => SameName a b) (.middle before key after ih) fun _ _ _ _ => id

/-- Only the fields for names can differ. -/
theorem get_eq (h : NameRespelled v w) {name : String} (hname : name ∉ nameFields) : w.get name = v.get name := by
  cases h with
  | refl => rfl
  | name hv => cases v <;> first | rfl | cases hv
  | field before after hkey =>
    exact FieldsRelated.get_eq (R := fun key _ _ => key ∈ nameFields) (.middle before _ after hkey) fun _ _ => hname

end NameRespelled

/-- The same names, item by item. -/
structure SameNames (v w : Value) : Prop where
  isNull_eq : w.isNull = v.isNull
  items : List.Forall₂ SameName v.asList w.asList

theorem FieldsRelated.sameNames {R : String → Value → Value → Prop} {v w : Value} (h : FieldsRelated R v w)
    (hR : ∀ key ∈ nameFields, ∀ a b, R key a b → SameName a b) : SameNames v w := by
  have hname := h.sameName hR
  cases h with
  | refl => exact ⟨rfl, List.forall₂_same.mpr fun v _ => .refl v⟩
  | record => exact ⟨rfl, .cons hname .nil⟩

namespace SameNames

variable {v w : Value}

theorem refl (v : Value) : SameNames v v := ⟨rfl, List.forall₂_same.mpr fun v _ => .refl v⟩

theorem names_eq (h : SameNames v w) : (namesOf w).map Text.lower = (namesOf v).map Text.lower := by
  rw [namesOf, namesOf, List.map_filterMap, List.map_filterMap]
  exact filterMap_eq_of_forall₂ h.items fun _ _ hvw => hvw.name_eq

theorem first (h : SameNames v w) : SameName v.firstItem w.firstItem := by
  have hitem (v : Value) : v.firstItem = v.asList.headD null := by cases v <;> rfl
  have hitems := h.items
  rw [hitem, hitem]
  generalize v.asList = vs, w.asList = ws at hitems
  cases hitems with
  | nil => exact .refl null
  | cons hvw => exact hvw

theorem firstOf {vs ws : List Value} (h : List.Forall₂ SameNames vs ws) : SameNames (firstOf vs) (Value.firstOf ws) :=
  firstOf_related (.refl null) (fun _ _ h => h.isNull_eq) h

end SameNames

theorem sameNames_of_namesRespelled {v w : Value} (h : NamesRespelled v w) : SameNames v w :=
  ⟨h.isNull_eq, (h.forall₂_asList .refl).imp fun _ _ => NameRespelled.sameName⟩

theorem get_eq_of_namesRespelled {v w : Value} (h : NamesRespelled v w) {name : String} (hname : name ∉ nameFields) :
    w.get name = v.get name := by
  cases h with
  | refl => rfl
  | one _ _ h => exact h.get_eq hname
  | list => rfl

end Value

open Value

/-! ### References -/

/-- What may change in a reference. -/
structure ReferenceField (key : String) (v w : Value) : Prop where
  key_mem : key ∈ ["table", "definition", "columns"]
  names : NamesRespelled v w

/-- The same reference with names in another spelling. -/
abbrev ReferenceRespelled : Value → Value → Prop := FieldsRelated ReferenceField

/-- What the reading of a reference sees: the same names, and the same actions. -/
structure SameReference (v w : Value) : Prop where
  isRecord_eq : w.isRecord = v.isRecord
  table : SameNames (v.get "table") (w.get "table")
  columns : ∀ name ∈ ["definition", "columns"], SameNames (v.get name) (w.get name)
  actions : ∀ name ∈ ["on_action", "on_delete", "on_update"], w.get name = v.get name

theorem Value.FieldsRelated.sameReference {R : String → Value → Value → Prop} {v w : Value} (h : FieldsRelated R v w)
    (hnames : ∀ key ∈ ["table", "definition", "columns"], ∀ a b, R key a b → SameNames a b)
    (hactions : ∀ key ∈ ["on_action", "on_delete", "on_update"], ∀ a b, ¬ R key a b) : SameReference v w := by
  have hget : ∀ key ∈ ["table", "definition", "columns"], SameNames (v.get key) (w.get key) :=
    fun key hkey => h.get_related .refl (hnames key hkey)
  exact ⟨h.isRecord_eq, hget _ (by simp), fun key hkey => hget key (List.mem_cons_of_mem _ hkey),
    fun key hkey => h.get_eq (hactions key hkey)⟩

theorem sameReference_of_respelled {v w : Value} (h : ReferenceRespelled v w) : SameReference v w := by
  refine h.sameReference ?_ ?_
  · rintro key - a b ⟨-, hnames⟩
    exact sameNames_of_namesRespelled hnames
  · rintro key hkey a b ⟨hkey', -⟩
    revert key
    decide

namespace SameReference

variable {v w : Value}

theorem tableName?_eq (h : SameReference v w) : (tableName? w).map Text.lower = (tableName? v).map Text.lower :=
  h.table.first.name_eq

theorem sameNames_columns (h : SameReference v w) :
    SameNames (firstOf [v.get "definition", v.get "columns"]) (firstOf [w.get "definition", w.get "columns"]) :=
  .firstOf (.cons (h.columns _ (by simp)) (.cons (h.columns _ (by simp)) .nil))

theorem actions_eq (h : SameReference v w) {item item' : Value}
    (hitem : ∀ name ∈ ["on_delete", "on_update"], item'.get name = item.get name) :
    Actions.ofReference w item' = Actions.ofReference v item := by
  rw [Actions.ofReference, Actions.ofReference, h.actions _ (by simp), h.actions "on_delete" (by simp),
    h.actions "on_update" (by simp), hitem "on_delete" (by simp), hitem "on_update" (by simp)]

end SameReference

/-- The reference with its names in lower case. -/
def ColumnReference.caseless (r : ColumnReference) : ColumnReference :=
  { r with table := Text.lower r.table, column := Text.lower r.column }

def TableReference.caseless (r : TableReference) : TableReference :=
  { r with table := Text.lower r.table, columns := r.columns.map Text.lower }

namespace SameReference

variable {v w : Value}

theorem map_caseless_column (h : SameReference v w) :
    (ColumnReference.ofValue? w).map (·.caseless) = (ColumnReference.ofValue? v).map (·.caseless) := by
  have htable := h.tableName?_eq
  have hcolumn := h.sameNames_columns.first.name_eq
  rw [ColumnReference.ofValue?, ColumnReference.ofValue?, h.isRecord_eq, h.actions_eq fun _ _ => rfl]
  generalize tableName? v = t, tableName? w = t' at htable
  generalize (firstOf [v.get "definition", v.get "columns"]).firstItem.nameText? = c,
    (firstOf [w.get "definition", w.get "columns"]).firstItem.nameText? = c' at hcolumn
  split
  · rfl
  · cases t <;> cases t' <;> cases c <;> cases c' <;> simp_all [ColumnReference.caseless]

theorem map_caseless_table (h : SameReference v w) {item item' : Value}
    (hitem : ∀ name ∈ ["on_delete", "on_update"], item'.get name = item.get name) :
    (TableReference.ofValue? w item').map (·.caseless) = (TableReference.ofValue? v item).map (·.caseless) := by
  have htable := h.tableName?_eq
  have hcolumns := h.sameNames_columns.names_eq
  rw [TableReference.ofValue?, TableReference.ofValue?, h.isRecord_eq, h.actions_eq hitem]
  generalize tableName? v = t, tableName? w = t' at htable
  generalize namesOf (firstOf [v.get "definition", v.get "columns"]) = cs,
    namesOf (firstOf [w.get "definition", w.get "columns"]) = cs' at hcolumns
  split
  · rfl
  · cases t <;> cases t' <;> cases cs <;> cases cs' <;> simp_all [TableReference.caseless]

end SameReference

/-! ### Constraints and columns -/

/-- What may change in a constraint that stands with a column: the reference that it holds, or is. -/
inductive EntryField (key : String) (v w : Value) : Prop
  | own (h : ReferenceField key v w)
  | reference (hkey : key = "reference") (h : ReferenceRespelled v w)

/-- One constraint that stands with a column, or several. -/
abbrev EntriesRespelled : Value → Value → Prop := ItemsRelated (FieldsRelated EntryField)

/-- What may change in a constraint of a table or in a column, which may be one and the same: the names that a
constraint lists, and the references of both. -/
inductive ItemField (key : String) (v w : Value) : Prop
  | names (hkey : key ∈ ["definition", "columns", "index_columns"]) (h : NamesRespelled v w)
  | reference (hkey : key ∈ ["references", "reference_definition", "reference"]) (h : ReferenceRespelled v w)
  | constraint (hkey : key = "constraint") (h : EntriesRespelled v w)
  | definition (hkey : key = "definition")
      (h : FieldsRelated (fun key a b => key = "constraint" ∧ EntriesRespelled a b) v w)

/-- The same item with names in another spelling. -/
abbrev ItemRespelled : Value → Value → Prop := FieldsRelated ItemField

/-- The fields in which an item may differ. -/
def itemKeys : List String :=
  ["definition", "columns", "index_columns", "references", "reference_definition", "reference", "constraint"]

namespace ItemField

variable {key : String} {v w : Value}

theorem mem (h : ItemField key v w) : key ∈ itemKeys := by
  cases h with
  | names hkey => exact List.subset_def.mp (by decide) hkey
  | reference hkey => exact List.subset_def.mp (by decide) hkey
  | constraint hkey => simp [hkey, itemKeys]
  | definition hkey => simp [hkey, itemKeys]

/-- Of a definition, only the fields for names and `constraint` may differ. -/
theorem get_definition (h : ItemField "definition" v w) {name : String} (hname : name ∉ "constraint" :: nameFields) :
    w.get name = v.get name := by
  obtain ⟨hconstraint, hname⟩ := not_or.mp (List.mem_cons.not.mp hname)
  cases h with
  | names _ h => exact get_eq_of_namesRespelled h hname
  | reference hkey => exact absurd hkey (by decide)
  | constraint hkey => exact absurd hkey (by decide)
  | definition _ h => exact h.get_eq fun _ _ hkey => hconstraint hkey.1

theorem sameNames (hkey : key ∈ ["definition", "columns", "index_columns"]) (h : ItemField key v w) :
    SameNames v w := by
  have hapart : ∀ key ∈ ["definition", "columns", "index_columns"],
      key ∉ ["references", "reference_definition", "reference"] ∧ key ≠ "constraint" := by decide
  cases h with
  | names _ h => exact sameNames_of_namesRespelled h
  | reference hkey' => exact ((hapart key hkey).1 hkey').elim
  | constraint hkey' => exact ((hapart key hkey).2 hkey').elim
  | definition _ h => exact h.sameNames fun key hkey _ _ hconstraint => absurd (hconstraint.1 ▸ hkey) (by decide)

theorem referenceRespelled (hkey : key ∈ ["references", "reference_definition", "reference"]) (h : ItemField key v w) :
    ReferenceRespelled v w := by
  have hapart : ∀ key ∈ ["references", "reference_definition", "reference"],
      key ∉ ["definition", "columns", "index_columns"] ∧ key ≠ "constraint" ∧ key ≠ "definition" := by decide
  cases h with
  | names hkey' => exact ((hapart key hkey).1 hkey').elim
  | reference _ h => exact h
  | constraint hkey' => exact ((hapart key hkey).2.1 hkey').elim
  | definition hkey' => exact ((hapart key hkey).2.2 hkey').elim

end ItemField

/-! ### Constraints of tables -/

namespace TableConstraint

/-- The constraint with its names in lower case, without the fields that no rule explains. -/
def caseless (k : TableConstraint) : TableConstraint :=
  { k with columns := k.columns.map Text.lower, reference := k.reference.map (·.caseless), extra := [] }

variable {R : String → Value → Value → Prop} {v w : Value}

theorem referenceOf_caseless (hreferences : ∀ name ∈ ["reference_definition", "reference"],
      ReferenceRespelled (v.get name) (w.get name))
    (hactions : ∀ name ∈ ["on_delete", "on_update"], w.get name = v.get name) :
    (referenceOf w).map (·.caseless) = (referenceOf v).map (·.caseless) := by
  have hfirst : ReferenceRespelled (firstOf [v.get "reference_definition", v.get "reference"])
      (firstOf [w.get "reference_definition", w.get "reference"]) :=
    firstOf_related (.refl null) (fun _ _ h => h.isNull_eq)
      (.cons (hreferences _ (by simp)) (.cons (hreferences _ (by simp)) .nil))
  exact (sameReference_of_respelled hfirst).map_caseless_table hactions

theorem ofKind_caseless (kind : ConstraintKind) (hsource : SameNames (source v) (source w))
    (hname : ∀ name ∈ ["constraint_name", "name"], w.get name = v.get name)
    (hreference : (referenceOf w).map (·.caseless) = (referenceOf v).map (·.caseless)) :
    (ofKind kind w).caseless = (ofKind kind v).caseless := by
  have hcolumns : (if kind == .check then [] else namesOf (source w)).map Text.lower =
      (if kind == .check then [] else namesOf (source v)).map Text.lower := by
    split
    · rfl
    · exact hsource.names_eq
  have hforeign : (if kind == .foreignKey then referenceOf w else none).map (·.caseless) =
      (if kind == .foreignKey then referenceOf v else none).map (·.caseless) := by
    split
    · exact hreference
    · rfl
  simp only [caseless, ofKind, hcolumns, hforeign, hname "constraint_name" (by simp), hname "name" (by simp)]

/-- What is read of a constraint is the same if it is an item in another spelling, whatever else is in two fields of an
alteration. -/
theorem map_caseless_ofValue? (h : FieldsRelated R v w)
    (hR : ∀ key a b, R key a b → ItemField key a b ∨ key ∈ ["create_definitions", "constraint"]) :
    (ofValue? w).map (·.caseless) = (ofValue? v).map (·.caseless) := by
  have hkept (name : String) (hname : name ∉ "create_definitions" :: itemKeys) : w.get name = v.get name := by
    refine h.get_eq fun a b hab => hname ?_
    rcases hR name a b hab with hitem | hheld
    · exact List.mem_cons_of_mem _ hitem.mem
    · exact List.subset_def.mp (by decide) hheld
  have hitem {name : String} (hname : name ∉ ["create_definitions", "constraint"]) {a b : Value} (hab : R name a b) :
      ItemField name a b := (hR _ _ _ hab).resolve_right hname
  have htyped : (w.get "definition").get "dataType" = (v.get "definition").get "dataType" :=
    h.get_related (P := fun a b => b.get "dataType" = a.get "dataType") (fun _ => rfl)
      fun _ _ hab => (hitem (by decide) hab).get_definition (by decide)
  have hnames : ∀ name ∈ ["definition", "columns", "index_columns"], SameNames (v.get name) (w.get name) := by
    have hapart : ∀ name ∈ ["definition", "columns", "index_columns"],
        name ∉ ["create_definitions", "constraint"] := by decide
    exact fun name hname => h.get_related .refl fun _ _ hab => (hitem (hapart name hname) hab).sameNames hname
  have hreferences : ∀ name ∈ ["reference_definition", "reference"],
      ReferenceRespelled (v.get name) (w.get name) := by
    have hapart : ∀ name ∈ ["reference_definition", "reference"], name ∉ ["create_definitions", "constraint"] := by
      decide
    exact fun name hname => h.get_related .refl fun _ _ hab =>
      (hitem (hapart name hname) hab).referenceRespelled (List.mem_cons_of_mem _ hname)
  have hdescribes : describesColumn w = describesColumn v := by
    rw [describesColumn, describesColumn, hkept "resource" (by decide), hkept "column" (by decide), htyped]
  have htag : tag w = tag v := by
    rw [tag, tag, hkept "constraint_type" (by decide), hkept "type" (by decide), hkept "resource" (by decide)]
  have hsource : SameNames (source v) (source w) :=
    .firstOf (.cons (hnames _ (by simp)) (.cons (hnames _ (by simp)) (.cons (hnames _ (by simp)) .nil)))
  have hreference := referenceOf_caseless hreferences fun name hname => hkept name (by revert name; decide)
  have hname : ∀ name ∈ ["constraint_name", "name"], w.get name = v.get name :=
    fun name hname => hkept name (by revert name; decide)
  rw [ofValue?, ofValue?, h.isRecord_eq, hdescribes, htag]
  split
  · rfl
  · rw [Option.map_some, Option.map_some, ofKind_caseless _ hsource hname hreference]

end TableConstraint

/-! ### Columns -/

/-- The definition with the names of its reference in lower case, without checks and the fields that no rule
explains. -/
def ColumnDefinition.caseless (d : ColumnDefinition) : ColumnDefinition :=
  { d with reference := d.reference.map (·.caseless), check := none, extra := [] }

namespace ColumnDefinition

variable {v w : Value}

theorem constraintTag_eq (h : FieldsRelated EntryField v w) : constraintTag w = constraintTag v := by
  have hapart : ∀ name ∈ ["type", "constraint_type"],
      name ∉ ["table", "definition", "columns"] ∧ name ≠ "reference" := by decide
  have hkept : ∀ name ∈ ["type", "constraint_type"], w.get name = v.get name := by
    refine fun name hname => h.get_eq fun a b hab => ?_
    cases hab with
    | own hown => exact (hapart name hname).1 hown.key_mem
    | reference hkey => exact (hapart name hname).2 hkey
  have htype := hkept "type" (by simp)
  have hconstraintType := hkept "constraint_type" (by simp)
  cases h with
  | refl => rfl
  | record => simp only [constraintTag, htype, hconstraintType]

theorem sameReference_of_entry (h : FieldsRelated EntryField v w) : SameReference v w := by
  refine h.sameReference ?_ ?_
  · rintro key hkey a b (hown | ⟨hkey', -⟩)
    · exact sameNames_of_namesRespelled hown.names
    · exact absurd (hkey' ▸ hkey) (by decide)
  · have hapart : ∀ key ∈ ["on_action", "on_delete", "on_update"],
        key ∉ ["table", "definition", "columns"] ∧ key ≠ "reference" := by decide
    rintro key hkey a b (hown | ⟨hkey', -⟩)
    · exact (hapart key hkey).1 hown.key_mem
    · exact (hapart key hkey).2 hkey'

theorem map_caseless_constraintReference? (h : FieldsRelated EntryField v w) :
    (constraintReference? w).map (·.caseless) = (constraintReference? v).map (·.caseless) := by
  have hown := (sameReference_of_entry h).map_caseless_column
  have hrespelled : ReferenceRespelled (v.get "reference") (w.get "reference") := by
    refine h.get_related .refl fun a b hfield => ?_
    cases hfield with
    | own hown => exact absurd hown.key_mem (by decide)
    | reference _ h => exact h
  rw [constraintReference?, constraintReference?, h.isRecord_eq, constraintTag_eq h, hrespelled.truthy_eq]
  split
  · rw [orElse, orElse, hrespelled.truthy_eq]
    split
    · exact (sameReference_of_respelled hrespelled).map_caseless_column
    · exact hown
  · rfl

/-- The fields of a column that may also stand in its definition, without the constraints. -/
def bodyFields : List String :=
  ["nullable", "not_null", "unique", "primary_key", "auto_increment", "default_val", "dataType", "data_type", "length",
    "scale"]

/-- The name is the same, and so is what is said outside the constraints. -/
structure SameFields (v w : Value) : Prop where
  isRecord_eq : w.isRecord = v.isRecord
  get_eq : ∀ name ∈ "column" :: bodyFields, w.get name = v.get name
  definition_eq : ∀ name ∈ bodyFields, (w.get "definition").get name = (v.get "definition").get name

/-- What stands at other places than references is the same. -/
structure SameBody (v w : Value) : Prop extends SameFields v w where
  constraints : EntriesRespelled (field v "constraint") (field w "constraint")
  references : ∀ name ∈ ["references", "reference_definition"], ReferenceRespelled (v.get name) (w.get name)

theorem sameFields_of_itemRespelled (h : ItemRespelled v w) : SameFields v w := by
  constructor
  case isRecord_eq => exact h.isRecord_eq
  case get_eq =>
    have hapart : ∀ name ∈ "column" :: bodyFields, name ∉ itemKeys := by decide
    exact fun name hname => h.get_eq fun _ _ hfield => hapart name hname hfield.mem
  case definition_eq =>
    have hapart : ∀ name ∈ bodyFields, name ∉ "constraint" :: nameFields := by decide
    exact fun name hname => h.get_related (P := fun a b => b.get name = a.get name) (fun _ => rfl)
      fun _ _ hfield => hfield.get_definition (hapart name hname)

theorem sameBody_of_itemRespelled (h : ItemRespelled v w) : SameBody v w := by
  constructor
  case toSameFields => exact sameFields_of_itemRespelled h
  case constraints =>
    have hown : EntriesRespelled (v.get "constraint") (w.get "constraint") := by
      refine h.get_related .refl fun a b hfield => ?_
      cases hfield with
      | names hkey => exact absurd hkey (by decide)
      | reference hkey => exact absurd hkey (by decide)
      | constraint _ h => exact h
      | definition hkey => exact absurd hkey (by decide)
    have hinner : EntriesRespelled ((v.get "definition").get "constraint") ((w.get "definition").get "constraint") := by
      refine h.get_related (P := fun a b => EntriesRespelled (a.get "constraint") (b.get "constraint"))
        (fun _ => .refl _) fun a b hfield => ?_
      cases hfield with
      | names _ h =>
        rw [get_eq_of_namesRespelled h (by decide)]
        exact .refl _
      | reference hkey => exact absurd hkey (by decide)
      | constraint hkey => exact absurd hkey (by decide)
      | definition _ h => exact h.get_related .refl fun _ _ hfield => hfield.2
    exact firstOf_related (.refl null) (fun _ _ h => h.isNull_eq) (.cons hown (.cons hinner .nil))
  case references =>
    exact fun name hname => h.get_related .refl fun _ _ hfield =>
      hfield.referenceRespelled (List.subset_def.mp (by simp) hname)

namespace SameFields

theorem field_eq (h : SameFields v w) (name : String) (hname : name ∈ bodyFields) :
    field w name = field v name ∧ innerField w name = innerField v name ∧ isSet w name = isSet v name := by
  have hget := h.get_eq name (List.mem_cons_of_mem _ hname)
  have hinner := h.definition_eq name hname
  exact ⟨by rw [field, field, hget, hinner], by rw [innerField, innerField, hget, hinner],
    by rw [isSet, isSet, hget, hinner]⟩

theorem writtenType_eq (h : SameFields v w) : writtenType w = writtenType v := by
  simp only [writtenType, h.get_eq "dataType" (by decide), h.get_eq "data_type" (by decide),
    h.definition_eq "dataType" (by decide), h.definition_eq "data_type" (by decide)]

theorem writtenNumbers_eq (h : SameFields v w) : writtenNumbers w = writtenNumbers v := by
  simp only [writtenNumbers, fieldNumbers, suffixNumbers, h.writtenType_eq,
    (h.field_eq "length" (by decide)).2.1, (h.field_eq "scale" (by decide)).2.1]

theorem nullableMarks_eq (h : SameFields v w) : nullableMarks w = nullableMarks v := by
  rw [nullableMarks, nullableMarks, (h.field_eq "nullable" (by decide)).1]

theorem uniqueMarks_eq (h : SameFields v w) : uniqueMarks w = uniqueMarks v := by
  rw [uniqueMarks, uniqueMarks, (h.field_eq "unique" (by decide)).1]

end SameFields

namespace SameBody

theorem entries (h : SameBody v w) :
    List.Forall₂ (FieldsRelated EntryField) (ColumnDefinition.constraints v) (ColumnDefinition.constraints w) :=
  h.constraints.forall₂_asList .refl

theorem marksOf_eq (h : SameBody v w) (typeName : String) : marksOf w typeName = marksOf v typeName := by
  have hentries : (ColumnDefinition.constraints w).map constraintMarks =
      (ColumnDefinition.constraints v).map constraintMarks := by
    have hfilter := filterMap_eq_of_forall₂ h.entries (f := fun entry => some (constraintMarks entry)) fun a b hab => by
      rw [constraintMarks, constraintMarks, constraintTag_eq hab]
    simpa using hfilter
  simp only [marksOf, h.nullableMarks_eq, h.uniqueMarks_eq, hentries, (h.field_eq "not_null" (by decide)).2.2,
    (h.field_eq "primary_key" (by decide)).2.2, (h.field_eq "auto_increment" (by decide)).2.2]

theorem map_caseless_referenceOf (h : SameBody v w) :
    (referenceOf w).map (·.caseless) = (referenceOf v).map (·.caseless) := by
  have hentries : ((ColumnDefinition.constraints w).filterMap constraintReference?).map (·.caseless) =
      ((ColumnDefinition.constraints v).filterMap constraintReference?).map (·.caseless) := by
    rw [List.map_filterMap, List.map_filterMap]
    exact filterMap_eq_of_forall₂ h.entries fun _ _ => map_caseless_constraintReference?
  have hfields :
      ([w.get "references", w.get "reference_definition"].filterMap ColumnReference.ofValue?).map (·.caseless) =
        ([v.get "references", v.get "reference_definition"].filterMap ColumnReference.ofValue?).map (·.caseless) := by
    have hrespelled : List.Forall₂ ReferenceRespelled [v.get "references", v.get "reference_definition"]
        [w.get "references", w.get "reference_definition"] :=
      .cons (h.references _ (by simp)) (.cons (h.references _ (by simp)) .nil)
    rw [List.map_filterMap, List.map_filterMap]
    exact filterMap_eq_of_forall₂ hrespelled fun _ _ hab => (sameReference_of_respelled hab).map_caseless_column
  rw [referenceOf, referenceOf, ← List.getLast?_map, ← List.getLast?_map, List.map_append, List.map_append, hentries,
    hfields]

end SameBody

/-- What is read of a column is the same if it is an item in another spelling. -/
theorem map_caseless_ofValue? (h : ItemRespelled v w) :
    (ofValue? w).map (Option.map (·.caseless)) = (ofValue? v).map (Option.map (·.caseless)) := by
  have hbody := sameBody_of_itemRespelled h
  have hdefault : defaultOf w = defaultOf v := by
    rw [defaultOf, defaultOf, (hbody.field_eq "default_val" (by decide)).1]
  rw [ofValue?, ofValue?, hbody.isRecord_eq, hbody.get_eq "column" (by decide), hbody.writtenType_eq,
    hbody.writtenNumbers_eq]
  split
  · rfl
  split
  · rfl
  · dsimp only
    split
    · rfl
    · generalize writtenNumbers v = numbers
      cases numbers with
      | error e => simp only [Except.map]
      | ok ns =>
        simp only [Except.map, Option.map_some, caseless, hbody.marksOf_eq, hdefault, hbody.map_caseless_referenceOf]

end ColumnDefinition

end SchemaDesk
