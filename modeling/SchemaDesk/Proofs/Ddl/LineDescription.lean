import Mathlib.Data.List.TakeWhile
import SchemaDesk.Definition.Constraint
import SchemaDesk.Proofs.Ddl.ClauseDescription
import SchemaDesk.Proofs.Ddl.LineReading
import SchemaDesk.Proofs.Ddl.TypeDescription
/-!
How the lines of tables are described, and which definitions of columns the descriptions give.
-/

namespace SchemaDesk.Ddl

open Sql

variable {d : Dialect}

namespace Line

/-- The description of a line. -/
def description (d : Dialect) : Line → Value
  | column name type clauses =>
    .record ([("resource", .text "column"), ("column", Describe.columnRef name),
      ("definition", type.description)] ++ (Clause.parts d clauses).toFields)
  | key first more =>
    Describe.constraint none "primary key" [("definition", .list ((first :: more).map Describe.columnRef))]

section Column

variable {name : String} {type : TypeWords} {clauses : List Clause}

theorem lookup_toFields {p : Describe.ColumnParts} {b : Option Bool} {x : Option Literal} {tags : List String}
    (h : Clause.Describes d p b x tags) (field : String) :
    p.toFields.lookup field =
      if field = "nullable" then b.map Clause.nullDescription
      else if field = "default_val" then x.map (Literal.description d)
      else if field = "constraint" ∧ tags ≠ [] then some (.list (tags.map fun t => Describe.tagged t []))
      else none := by
  have hlist : Describe.ColumnParts.listField "constraint" p.constraints =
      if tags = [] then [] else [("constraint", .list (tags.map fun t => Describe.tagged t []))] := by
    rw [Describe.ColumnParts.listField, h.constraints]
    cases tags <;> rfl
  have hoptions : Describe.ColumnParts.listField "options" p.options = [] := by rw [h.options]; rfl
  rw [Describe.ColumnParts.toFields, hoptions, List.append_nil, List.lookup_append, hlist]
  by_cases hnullable : field = "nullable"
  · subst hnullable
    rw [h.nullable, if_pos rfl]
    split <;> simp [List.lookup_cons]
  by_cases hdefault : field = "default_val"
  · subst hdefault
    rw [h.default, if_neg hnullable, if_pos rfl]
    split <;> simp [List.lookup_cons]
  have hother : p.fields.lookup field = none := by
    refine List.lookup_eq_none_iff.mpr fun f hf => ?_
    have hname := h.names f hf
    rw [bne_iff_ne]
    rintro rfl
    simp [hnullable, hdefault] at hname
  rw [hother, Option.none_or, if_neg hnullable, if_neg hdefault]
  by_cases htags : tags = []
  · simp [htags]
  · rw [if_neg htags, lookup_cons]
    simp [htags]

/-- The fields of the description of a column. -/
theorem get_description (d : Dialect) (field : String) :
    ((column name type clauses).description d).get field =
      if field = "resource" then .text "column"
      else if field = "column" then Describe.columnRef name
      else if field = "definition" then type.description
      else ((Clause.parts d clauses).toFields.lookup field).getD .null := by
  show ((_ :: _ :: _ :: (Clause.parts d clauses).toFields : List (String × Value)).lookup field).getD .null = _
  rw [lookup_cons, lookup_cons, lookup_cons]
  dsimp only
  split
  · rfl
  split
  · rfl
  split
  · rfl
  · rfl

theorem get_definition (d : Dialect) :
    ((column name type clauses).description d).get "definition" = type.description := by
  rw [get_description]
  simp

theorem get_nullable (d : Dialect) : ((column name type clauses).description d).get "nullable" =
    ((Clause.nullability clauses).map Clause.nullDescription).getD .null := by
  rw [get_description, lookup_toFields (Clause.describes_parts d clauses)]
  simp

theorem get_default (d : Dialect) : ((column name type clauses).description d).get "default_val" =
    ((Clause.lastLiteral? clauses).map (Literal.description d)).getD .null := by
  rw [get_description, lookup_toFields (Clause.describes_parts d clauses)]
  simp

theorem asList_get_constraint (d : Dialect) :
    (((column name type clauses).description d).get "constraint").asList =
      (clauses.filterMap Clause.tag?).map fun t => Describe.tagged t [] := by
  rw [get_description, lookup_toFields (Clause.describes_parts d clauses)]
  by_cases htags : clauses.filterMap Clause.tag? = []
  · simp [htags, Value.asList]
  · simp [htags, Value.asList]

/-- The names of the fields that a column may have. -/
def fieldNames : List String := ["resource", "column", "definition", "nullable", "default_val", "constraint"]

theorem name_mem_fieldNames (d : Dialect) {f : String × Value}
    (hf : f ∈ [("resource", .text "column"), ("column", Describe.columnRef name),
      ("definition", type.description)] ++ (Clause.parts d clauses).toFields) : f.1 ∈ fieldNames := by
  have hparts := Clause.describes_parts d clauses
  have hlist (name : String) (items : List Value) :
      f ∈ Describe.ColumnParts.listField name items → f.1 = name := by
    rw [Describe.ColumnParts.listField]
    split
    · exact nofun
    · intro hf
      rw [List.mem_singleton.mp hf]
  rw [Describe.ColumnParts.toFields, hparts.options, List.mem_append, List.mem_append, List.mem_append] at hf
  rcases hf with hf | (hf | hf) | hf
  · simp only [List.mem_cons, List.not_mem_nil, or_false] at hf
    rcases hf with rfl | rfl | rfl <;> simp [fieldNames]
  · have hname := hparts.names f hf
    simp only [fieldNames, List.mem_cons, List.not_mem_nil, or_false] at hname ⊢
    tauto
  · simp [fieldNames, hlist _ _ hf]
  · cases hf

theorem get_other (d : Dialect) {field : String} (h : field ∉ fieldNames) :
    ((column name type clauses).description d).get field = .null := by
  simp only [fieldNames, List.mem_cons, List.not_mem_nil, or_false, not_or] at h
  rw [get_description, lookup_toFields (Clause.describes_parts d clauses)]
  simp [h]

theorem get_typeDescription {t : TypeWords} {field : String} (h : field ∉ ["dataType", "length"]) :
    t.description.get field = .null := by
  simp only [List.mem_cons, List.not_mem_nil, or_false, not_or] at h
  show ((("dataType", Value.text t.name) :: Describe.lengthField t.numbers).lookup field).getD .null = _
  rw [lookup_cons, if_neg h.1]
  match t.numbers with
  | [] => rfl
  | [n] => rw [Describe.lengthField, lookup_cons, if_neg h.2]; rfl
  | n :: m :: ns => rw [Describe.lengthField, lookup_cons, if_neg h.2]; rfl

theorem firstOf_null (v : Value) : Value.firstOf [v, .null] = v := by
  cases v <;> rfl

/-- The fields of a type have names of their own. -/
theorem field_eq_get (d : Dialect) {field : String} (h : field ∉ ["dataType", "length"]) :
    ColumnDefinition.field ((column name type clauses).description d) field =
      ((column name type clauses).description d).get field := by
  rw [ColumnDefinition.field, get_definition, get_typeDescription h, firstOf_null]

theorem normalSpelling_word {w : String} (hw : TypeWords.IsWord d w) : ColumnType.normalSpelling w = w := by
  have hall : ∀ f ∈ TypeWords.forms d, ColumnType.normalSpelling f.2.1 = f.2.1 := by
    cases d <;> decide +kernel
  obtain ⟨kind, n, hmem⟩ := hw
  exact hall (kind, w, n) hmem

theorem opening_notMem_word {w : String} (hw : TypeWords.IsWord d w) : '(' ∉ w.toList := by
  have hall : ∀ f ∈ TypeWords.forms d, '(' ∉ f.2.1.toList := by
    cases d <;> decide +kernel
  obtain ⟨kind, n, hmem⟩ := hw
  exact hall _ hmem

theorem writtenType_description : ColumnDefinition.writtenType ((column name type clauses).description d) =
    type.name := by
  rw [ColumnDefinition.writtenType, get_definition]
  rfl

theorem fieldNumbers_description (hlength : type.numbers.length ≤ 2) :
    ColumnDefinition.fieldNumbers ((column name type clauses).description d) = .ok type.numbers := by
  rw [ColumnDefinition.fieldNumbers, ColumnDefinition.innerField, ColumnDefinition.innerField, get_definition,
    get_other d (by decide), get_other d (by decide), TypeWords.description]
  generalize type.numbers = numbers at hlength ⊢
  obtain - | ⟨n, - | ⟨m, - | ⟨l, numbers⟩⟩⟩ := numbers
  · rfl
  · rfl
  · rfl
  · exact absurd hlength (by simp)

theorem writtenNumbers_description (ht : type.IsWorded d) :
    ColumnDefinition.writtenNumbers ((column name type clauses).description d) = .ok type.numbers := by
  have hsuffix : ColumnDefinition.suffixNumbers ((column name type clauses).description d) = .ok [] := by
    have hopen : type.name.toList.dropWhile (· != '(') = [] :=
      List.dropWhile_eq_nil_iff.mpr fun c hc => TypeWords.bne_of_notMem (opening_notMem_word ht.word) hc
    rw [ColumnDefinition.suffixNumbers, writtenType_description, ColumnDefinition.parenthesised?, hopen]
  rw [ColumnDefinition.writtenNumbers, fieldNumbers_description ht.few]
  cases type.numbers with
  | nil => exact hsuffix
  | cons n ns => rfl

theorem nullableMarks_description : ColumnDefinition.nullableMarks ((column name type clauses).description d) =
    { notNull := Clause.nullability clauses == some false } := by
  rw [ColumnDefinition.nullableMarks, field_eq_get d (by decide), get_nullable]
  rcases Clause.nullability clauses with - | - | - <;> decide +kernel

theorem defaultOf_description : ColumnDefinition.defaultOf ((column name type clauses).description d) =
    (Clause.lastLiteral? clauses).map Literal.written := by
  rw [ColumnDefinition.defaultOf, field_eq_get d (by decide), get_default]
  cases Clause.lastLiteral? clauses with
  | none => rfl
  | some x => exact Literal.defaultText?_description x

theorem constraints_description : ColumnDefinition.constraints ((column name type clauses).description d) =
    (clauses.filterMap Clause.tag?).map fun t => Describe.tagged t [] := by
  rw [ColumnDefinition.constraints, field_eq_get d (by decide), asList_get_constraint]

theorem nothing_join (m : ColumnMarks) : ColumnMarks.join {} m = m := by
  simp [ColumnMarks.join]

/-- What the clauses of a column of that type say about its values. -/
def marks (typeName : String) (clauses : List Clause) : ColumnMarks :=
  let serial := Text.hasWord typeName "SERIAL"
  .joinAll ({ autoIncrement := serial, notNull := serial } ::
    { notNull := Clause.nullability clauses == some false } :: clauses.map Clause.marks)

theorem marksOf_description (typeName : String) :
    ColumnDefinition.marksOf ((column name type clauses).description d) typeName =
      marks typeName clauses := by
  have hset {field : String} (h : field ∉ fieldNames) (htype : field ∉ ["dataType", "length"]) :
      ColumnDefinition.isSet ((column name type clauses).description d) field = false := by
    rw [ColumnDefinition.isSet, get_definition, get_other d h, get_typeDescription htype]
    rfl
  have hunique : ColumnDefinition.uniqueMarks ((column name type clauses).description d) = {} := by
    rw [ColumnDefinition.uniqueMarks, field_eq_get d (by decide), get_other d (by decide)]
  rw [ColumnDefinition.marksOf, nullableMarks_description, hunique, hset (by decide) (by decide),
    hset (by decide) (by decide), hset (by decide) (by decide), constraints_description]
  simp only [marks, ColumnMarks.joinAll, List.cons_append, List.nil_append, List.foldl_cons,
    Bool.false_eq_true, if_false, nothing_join, ← Clause.foldl_join_tags, Clause.join_nothing]

/-- No clause is a reference or a check. -/
theorem tag_plain (c : Clause) :
    ∀ t ∈ c.tag?, ColumnDefinition.constraintReference? (Describe.tagged t []) = none ∧
      ColumnDefinition.isCheck (Describe.tagged t []) = false := by
  cases c with
  | key => decide +kernel
  | counts underscore => cases underscore <;> decide +kernel
  | unique | uniqueDefault => decide +kernel
  | notNull | null | default => exact nofun

/-- The definition of a column, as its line says. -/
def definition (name : String) (type : TypeWords) (clauses : List Clause) : ColumnDefinition :=
  { name
    typeName := type.name
    marks := marks type.name clauses
    numbers := ColumnDefinition.typeNumbers type.name type.numbers
    default := (Clause.lastLiteral? clauses).map Literal.written }

theorem ofValue?_description (hname : name ≠ "") (ht : type.IsWorded d) :
    ColumnDefinition.ofValue? ((column name type clauses).description d) =
      .ok (some (definition name type clauses)) := by
  have hname : (((column name type clauses).description d).get "column").nameText? = some name := by
    rw [get_description]
    simp [Describe.columnRef, Describe.tagged, Value.nameText?, Value.nameField?, hname, Value.isNull]
  have hplain : ∀ v ∈ ColumnDefinition.constraints ((column name type clauses).description d),
      ColumnDefinition.constraintReference? v = none ∧ ColumnDefinition.isCheck v = false := by
    intro v hv
    rw [constraints_description, List.mem_map] at hv
    obtain ⟨t, ht, rfl⟩ := hv
    obtain ⟨c, -, hc⟩ := List.mem_filterMap.mp ht
    exact tag_plain c t hc
  have hreference : ColumnDefinition.referenceOf ((column name type clauses).description d) = none := by
    rw [ColumnDefinition.referenceOf, List.filterMap_eq_nil_iff.mpr fun v hv => (hplain v hv).1,
      get_other d (by decide), get_other d (by decide)]
    rfl
  have hcheck : ColumnDefinition.lastCheck? ((column name type clauses).description d) = none := by
    rw [ColumnDefinition.lastCheck?, List.filter_eq_nil_iff.mpr fun v hv => by simp [(hplain v hv).2]]
    rfl
  have hextra : ColumnDefinition.extraOf ((column name type clauses).description d) = [] := by
    have hother : otherFields ColumnDefinition.knownFields ((column name type clauses).description d) = [] := by
      refine List.filter_eq_nil_iff.mpr fun f hf => ?_
      have hknown : ∀ s ∈ fieldNames, s ∈ ColumnDefinition.knownFields := by decide
      simpa using hknown f.1 (name_mem_fieldNames d hf)
    rw [ColumnDefinition.extraOf, hother, hcheck]
    rfl
  unfold ColumnDefinition.ofValue?
  rw [if_neg (by simp [description, Value.isRecord]), hname]
  simp only [writtenType_description, normalSpelling_word ht.word, writtenNumbers_description ht,
    marksOf_description, defaultOf_description, hreference, hcheck, hextra]
  rw [if_neg (by simpa using ht.word.written.1)]
  rfl

end Column

end Line

end SchemaDesk.Ddl
