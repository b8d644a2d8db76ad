import SchemaDesk.Proofs.Definition.Respelling
import SchemaDesk.Proofs.Extraction.Origin
/-!
Which marks a definition has. A mark is set if one of several places says so, and it does not matter which one or how
often; so what is added to a description never takes a mark back.
-/

namespace SchemaDesk

/-- Every mark that the first one sets is set by the second one. -/
structure ColumnMarks.Within (a b : ColumnMarks) : Prop where
  primaryKey : a.primaryKey = true → b.primaryKey = true
  notNull : a.notNull = true → b.notNull = true
  unique : a.unique = true → b.unique = true
  autoIncrement : a.autoIncrement = true → b.autoIncrement = true

theorem ColumnMarks.Within.antisymm {a b : ColumnMarks} (hab : a.Within b) (hba : b.Within a) : a = b := by
  have hsame : ∀ {x y : Bool}, (x = true → y = true) → (y = true → x = true) → x = y :=
    fun hxy hyx => Bool.eq_iff_iff.mpr ⟨hxy, hyx⟩
  cases a
  cases b
  rw [mk.injEq]
  exact ⟨hsame hab.primaryKey hba.primaryKey, hsame hab.notNull hba.notNull, hsame hab.unique hba.unique,
    hsame hab.autoIncrement hba.autoIncrement⟩

namespace ColumnDefinition

variable {v w : Value} {d e : ColumnDefinition}

/-- A constraint that stands with the column has a kind with that word in it. -/
def HasTag (v : Value) (word : String) : Prop :=
  ∃ entry ∈ constraints v, Text.hasWord (constraintTag entry) word = true

/-- What a record in a field `nullable` says. -/
def wording (fields : List (String × Value)) : String :=
  let r := Value.record fields
  (((r.get "type").orElse (r.get "value")).orElse (.text "")).display

/-- The values of a field `nullable` that exclude null. -/
inductive ExcludesNull : Value → Prop
  | never : ExcludesNull (.bool false)
  | text {s : String} (h : Text.hasWord (Text.lower s) "not null" = true) : ExcludesNull (.text s)
  | record {fields : List (String × Value)} (h : Text.hasWord (Text.lower (wording fields)) "not null" = true) :
      ExcludesNull (.record fields)

/-- The values of a field `unique` that ask for unique values. -/
inductive AsksUnique : Value → Prop
  | always : AsksUnique (.bool true)
  | text {s : String} (h : Text.lower (Text.strip s) ∈ ["unique", "unique key"]) : AsksUnique (.text s)

/-- The marks of the definition, each with all that sets it. -/
structure HasMarksOf (v : Value) (d : ColumnDefinition) : Prop where
  primaryKey_iff : d.marks.primaryKey = true ↔ isSet v "primary_key" = true ∨ HasTag v "PRIMARY"
  autoIncrement_iff : d.marks.autoIncrement = true ↔
    Text.hasWord d.typeName "SERIAL" = true ∨ isSet v "auto_increment" = true ∨
      HasTag v "AUTO_INCREMENT" ∨ HasTag v "AUTOINCREMENT"
  unique_iff : d.marks.unique = true ↔
    d.marks.primaryKey = true ∨ AsksUnique (field v "unique") ∨ HasTag v "UNIQUE"
  notNull_iff : d.marks.notNull = true ↔
    d.marks.primaryKey = true ∨ Text.hasWord d.typeName "SERIAL" = true ∨ ExcludesNull (field v "nullable") ∨
      isSet v "not_null" = true ∨ HasTag v "NOT NULL"

/-! ### Where a mark comes from -/

@[simp] theorem primaryKey_constraintMarks (entry : Value) :
    (constraintMarks entry).primaryKey = Text.hasWord (constraintTag entry) "PRIMARY" := by
  rw [constraintMarks]
  cases Text.hasWord (constraintTag entry) "PRIMARY" <;> rfl

@[simp] theorem notNull_constraintMarks (entry : Value) : (constraintMarks entry).notNull =
    (Text.hasWord (constraintTag entry) "PRIMARY" || Text.hasWord (constraintTag entry) "NOT NULL") := by
  rw [constraintMarks]
  cases Text.hasWord (constraintTag entry) "PRIMARY" <;> rfl

@[simp] theorem unique_constraintMarks (entry : Value) : (constraintMarks entry).unique =
    (Text.hasWord (constraintTag entry) "PRIMARY" || Text.hasWord (constraintTag entry) "UNIQUE") := by
  rw [constraintMarks]
  cases Text.hasWord (constraintTag entry) "PRIMARY" <;> rfl

@[simp] theorem autoIncrement_constraintMarks (entry : Value) : (constraintMarks entry).autoIncrement =
    (Text.hasWord (constraintTag entry) "AUTO_INCREMENT" || Text.hasWord (constraintTag entry) "AUTOINCREMENT") := by
  rw [constraintMarks]
  cases Text.hasWord (constraintTag entry) "PRIMARY" <;> rfl

/-! The other parts set each mark alone, or all that belong to a key. -/

section
variable (b : Bool)

@[simp] theorem primaryKey_keyIf : (if b then ColumnMarks.key else {}).primaryKey = b := by cases b <;> rfl

@[simp] theorem notNull_keyIf : (if b then ColumnMarks.key else {}).notNull = b := by cases b <;> rfl

@[simp] theorem unique_keyIf : (if b then ColumnMarks.key else {}).unique = b := by cases b <;> rfl

@[simp] theorem autoIncrement_keyIf : (if b then ColumnMarks.key else {}).autoIncrement = false := by cases b <;> rfl

end

@[simp] theorem primaryKey_nullableMarks (v : Value) : (nullableMarks v).primaryKey = false := rfl

@[simp] theorem unique_nullableMarks (v : Value) : (nullableMarks v).unique = false := rfl

@[simp] theorem autoIncrement_nullableMarks (v : Value) : (nullableMarks v).autoIncrement = false := rfl

@[simp] theorem primaryKey_uniqueMarks (v : Value) : (uniqueMarks v).primaryKey = false := by
  rw [uniqueMarks]
  split <;> rfl

@[simp] theorem notNull_uniqueMarks (v : Value) : (uniqueMarks v).notNull = false := by
  rw [uniqueMarks]
  split <;> rfl

@[simp] theorem autoIncrement_uniqueMarks (v : Value) : (uniqueMarks v).autoIncrement = false := by
  rw [uniqueMarks]
  split <;> rfl

theorem notNull_nullableMarks_iff : (nullableMarks v).notNull = true ↔ ExcludesNull (field v "nullable") := by
  have hempty : Text.hasWord "" "not null" = false := by decide
  have hnever : Text.hasWord "not null" "not null" = true := by decide
  rw [nullableMarks]
  cases field v "nullable" with
  | bool b =>
    cases b with
    | false => exact iff_of_true hnever .never
    | true => exact iff_of_false (by simp [hempty]) (by rintro ⟨⟩)
  | text s =>
    dsimp only
    exact ⟨fun h => .text h, fun h => by cases h with | text h => exact h⟩
  | record fields =>
    dsimp only
    exact ⟨fun h => .record h, fun h => by cases h with | record h => exact h⟩
  | null | int | real | list => exact iff_of_false (by simp [hempty]) (by rintro ⟨⟩)

theorem unique_uniqueMarks_iff : (uniqueMarks v).unique = true ↔ AsksUnique (field v "unique") := by
  rw [uniqueMarks]
  cases field v "unique" with
  | bool b =>
    cases b with
    | true => exact iff_of_true rfl .always
    | false => exact iff_of_false Bool.false_ne_true (by rintro ⟨⟩)
  | text s =>
    have hlisted : (Text.lower (Text.strip s) == "unique" || Text.lower (Text.strip s) == "unique key") = true ↔
        Text.lower (Text.strip s) ∈ ["unique", "unique key"] := by simp
    dsimp only
    exact hlisted.trans ⟨fun h => .text h, fun h => by cases h with | text h => exact h⟩
  | null | int | real | list | record => exact iff_of_false Bool.false_ne_true (by rintro ⟨⟩)

/-- A mark is set by the type, by one of the fields, or by one of the constraints. -/
theorem mark_marksOf_iff (mark : ColumnMarks → Bool) (hnone : mark {} = false)
    (hjoin : ∀ a b, mark (.join a b) = (mark a || mark b)) (v : Value) (typeName : String) :
    mark (marksOf v typeName) = true ↔
      mark { autoIncrement := Text.hasWord typeName "SERIAL", notNull := Text.hasWord typeName "SERIAL" } = true ∨
      mark (nullableMarks v) = true ∨ mark { notNull := isSet v "not_null" } = true ∨ mark (uniqueMarks v) = true ∨
      mark (if isSet v "primary_key" then .key else {}) = true ∨
      mark { autoIncrement := isSet v "auto_increment" } = true ∨
      ∃ entry ∈ constraints v, mark (constraintMarks entry) = true := by
  rw [marksOf, ColumnMarks.joinAll_eq_any mark hnone hjoin, List.any_append, List.any_map, Bool.or_eq_true,
    List.any_eq_true (l := constraints v)]
  simp only [List.any_cons, List.any_nil, Bool.or_false, Bool.or_eq_true, or_assoc, Function.comp]

theorem exists_tag_or_iff {word other : String} :
    (∃ entry ∈ constraints v,
      (Text.hasWord (constraintTag entry) word || Text.hasWord (constraintTag entry) other) = true) ↔
      HasTag v word ∨ HasTag v other := by
  simp only [Bool.or_eq_true, and_or_left, exists_or, HasTag]

theorem primaryKey_marksOf_iff (v : Value) (typeName : String) :
    (marksOf v typeName).primaryKey = true ↔ isSet v "primary_key" = true ∨ HasTag v "PRIMARY" := by
  rw [mark_marksOf_iff ColumnMarks.primaryKey rfl fun _ _ => rfl]
  simp [HasTag]

theorem autoIncrement_marksOf_iff (v : Value) (typeName : String) :
    (marksOf v typeName).autoIncrement = true ↔ Text.hasWord typeName "SERIAL" = true ∨
      isSet v "auto_increment" = true ∨ HasTag v "AUTO_INCREMENT" ∨ HasTag v "AUTOINCREMENT" := by
  rw [mark_marksOf_iff ColumnMarks.autoIncrement rfl fun _ _ => rfl, ← exists_tag_or_iff]
  simp

theorem unique_marksOf_iff (v : Value) (typeName : String) :
    (marksOf v typeName).unique = true ↔
      (marksOf v typeName).primaryKey = true ∨ AsksUnique (field v "unique") ∨ HasTag v "UNIQUE" := by
  rw [primaryKey_marksOf_iff, mark_marksOf_iff ColumnMarks.unique rfl fun _ _ => rfl,
    unique_uniqueMarks_iff]
  simp only [unique_constraintMarks, exists_tag_or_iff, unique_nullableMarks, unique_keyIf, Bool.false_eq_true,
    false_or]
  tauto

theorem notNull_marksOf_iff (v : Value) (typeName : String) :
    (marksOf v typeName).notNull = true ↔
      (marksOf v typeName).primaryKey = true ∨ Text.hasWord typeName "SERIAL" = true ∨
        ExcludesNull (field v "nullable") ∨ isSet v "not_null" = true ∨ HasTag v "NOT NULL" := by
  rw [primaryKey_marksOf_iff, mark_marksOf_iff ColumnMarks.notNull rfl fun _ _ => rfl,
    notNull_nullableMarks_iff]
  simp only [notNull_constraintMarks, exists_tag_or_iff, notNull_uniqueMarks, notNull_keyIf, Bool.false_eq_true,
    false_or]
  tauto

theorem definition?_eq_some_iff : Extraction.definition? v = some d ↔ ofValue? v = .ok (some d) := by
  rw [Extraction.definition?]
  cases ofValue? v with
  | error f => simp
  | ok found => simp

theorem hasMarksOf (h : ofValue? v = .ok (some d)) : HasMarksOf v d := by
  have hmarks : d.marks = marksOf v d.typeName :=
    (Extraction.isDefinitionOf_of_definition? (definition?_eq_some_iff.mpr h)).marks_eq
  constructor
  case primaryKey_iff => rw [hmarks, primaryKey_marksOf_iff]
  case autoIncrement_iff => rw [hmarks, autoIncrement_marksOf_iff]
  case unique_iff => rw [hmarks, ← unique_marksOf_iff]
  case notNull_iff => rw [hmarks, ← notNull_marksOf_iff]

/-! ### Descriptions that say more -/

theorem HasTag.mono {word : String} (h : HasTag v word) (hsub : constraints v ⊆ constraints w) : HasTag w word := by
  obtain ⟨entry, hentry, hword⟩ := h
  exact ⟨entry, hsub hentry, hword⟩

theorem SameFields.symm (h : SameFields v w) : SameFields w v :=
  ⟨h.isRecord_eq.symm, fun name hname => (h.get_eq name hname).symm,
    fun name hname => (h.definition_eq name hname).symm⟩

/-- A description with the same fields but for the constraints has a definition, too. -/
theorem SameFields.exists_ofValue? (h : SameFields v w) (hd : ofValue? v = .ok (some d)) :
    ∃ e, ofValue? w = .ok (some e) ∧ e.typeName = d.typeName := by
  rw [ofValue?] at hd
  rw [ofValue?, h.isRecord_eq, h.get_eq "column" (by decide), h.writtenType_eq, h.writtenNumbers_eq]
  split at hd
  · cases hd
  · next hrecord =>
    rw [if_neg hrecord]
    cases hname : (v.get "column").nameText? with
    | none =>
      rw [hname] at hd
      cases hd
    | some name =>
      rw [hname] at hd
      dsimp only at hd ⊢
      split at hd
      · cases hd
      · next htype =>
        rw [if_neg htype]
        cases hnumbers : writtenNumbers v with
        | error f =>
          rw [hnumbers] at hd
          cases hd
        | ok ns =>
          rw [hnumbers] at hd
          cases hd
          exact ⟨_, rfl, rfl⟩

theorem HasMarksOf.within (hd : HasMarksOf v d) (he : HasMarksOf w e) (h : SameFields v w)
    (htype : e.typeName = d.typeName) (hsub : constraints v ⊆ constraints w) : d.marks.Within e.marks := by
  have hset {name : String} (hname : name ∈ bodyFields) : isSet w name = isSet v name := (h.field_eq name hname).2.2
  have htag {word : String} : HasTag v word → HasTag w word := fun h => h.mono hsub
  have hkey : d.marks.primaryKey = true → e.marks.primaryKey = true := by
    rw [hd.primaryKey_iff, he.primaryKey_iff, hset (by decide)]
    exact Or.imp_right htag
  constructor
  case primaryKey => exact hkey
  case autoIncrement =>
    rw [hd.autoIncrement_iff, he.autoIncrement_iff, htype, hset (by decide)]
    exact Or.imp_right (Or.imp_right (Or.imp htag htag))
  case unique =>
    rw [hd.unique_iff, he.unique_iff, (h.field_eq "unique" (by decide)).1]
    exact Or.imp hkey (Or.imp_right htag)
  case notNull =>
    rw [hd.notNull_iff, he.notNull_iff, htype, (h.field_eq "nullable" (by decide)).1, hset (by decide)]
    exact Or.imp hkey (Or.imp_right (Or.imp_right (Or.imp_right htag)))

/-- Each mark of a definition is set exactly if one of its places says so. A description with the same fields and all of
these constraints, in any order, as often as one likes and with others among them, keeps each mark that is set; and it
sets no other mark if it has no other constraint. -/
theorem marks_of_ofValue? (h : ofValue? v = .ok (some d)) :
    HasMarksOf v d ∧ ∀ w, SameFields v w → constraints v ⊆ constraints w →
      ∃ e, ofValue? w = .ok (some e) ∧ d.marks.Within e.marks ∧
        (constraints w ⊆ constraints v → e.marks = d.marks) := by
  refine ⟨hasMarksOf h, fun w hfields hsub => ?_⟩
  obtain ⟨e, he, htype⟩ := hfields.exists_ofValue? h
  have hwithin := (hasMarksOf h).within (hasMarksOf he) hfields htype hsub
  refine ⟨e, he, hwithin, fun hsub' => ?_⟩
  exact ((hasMarksOf he).within (hasMarksOf h) hfields.symm htype.symm hsub').antisymm hwithin

/-- A column with constraints that stand with it. -/
def codeItem (constraints : List Value) : Value := .record [
  ("column", .text "code"), ("definition", .record [("dataType", .text "INT")]), ("constraint", .list constraints)]

theorem marks_of_codeItem :
    let v := codeItem [.text "not null", .text "unique"]
    let w := codeItem [.text "unique", .record [("type", .text "null")], .text "not null", .text "unique"]
    ∃ d, ofValue? v = .ok (some d) ∧ HasMarksOf v d ∧ SameFields v w ∧ constraints v ⊆ constraints w ∧
      ∃ e, ofValue? w = .ok (some e) ∧ d.marks.Within e.marks := by
  intro v w
  obtain ⟨d, hd⟩ := Option.isSome_iff_exists.mp (show (Extraction.definition? v).isSome = true by decide +kernel)
  have hd : ofValue? v = .ok (some d) := definition?_eq_some_iff.mp hd
  have hfields : SameFields v w := by
    constructor
    case isRecord_eq => rfl
    all_goals simp [v, w, codeItem, bodyFields, Value.get_record_cons]
  have hsub : constraints v ⊆ constraints w := by
    change [Value.text "not null", .text "unique"] ⊆ [.text "unique", _, .text "not null", .text "unique"]
    simp
  obtain ⟨hmarks, hmore⟩ := marks_of_ofValue? hd
  obtain ⟨e, he, hwithin, -⟩ := hmore w hfields hsub
  exact ⟨d, hd, hmarks, hfields, hsub, e, he, hwithin⟩

end ColumnDefinition

end SchemaDesk
