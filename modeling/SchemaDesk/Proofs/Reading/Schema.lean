import Mathlib.Data.List.Forall2
import Mathlib.Tactic.Common
import SchemaDesk.Proofs.Ddl.ColumnEcho
import SchemaDesk.Proofs.Extraction.Origin
import SchemaDesk.Reading
/-!
What holds of every schema that is read for a script: it is well formed, and its types have no negative numbers.
-/

namespace SchemaDesk

open Sql

/-! ### Numbers in descriptions -/

/-- If the value stands for a number, then not for a negative one. -/
def Value.NoNegative (v : Value) : Prop := ∀ n, v.toInt? = .ok (some n) → 0 ≤ n

theorem Value.noNegative_int {n : Int} (h : 0 ≤ n) : (Value.int n).NoNegative := by
  intro m hm
  obtain rfl : n = m := Option.some.inj (Except.ok.inj hm)
  exact h

/-- A text has digits but no sign. -/
theorem Value.noNegative_text (s : String) : (Value.text s).NoNegative := by
  intro m hm
  simp only [toInt?, unwrapped] at hm
  split at hm
  · split at hm
    · next n _ =>
      obtain rfl := Option.some.inj (Except.ok.inj hm)
      exact Int.natCast_nonneg n
    · cases hm
  · cases hm

namespace ColumnDefinition

/-- The numbers that belong to the type are not negative. -/
def HasNonnegativeNumbers (e : ColumnDefinition) : Prop :=
  ∀ n : Int, some n ∈ [e.numbers.length, e.numbers.precision, e.numbers.scale, e.numbers.dimension] → 0 ≤ n

/-- The fields for numbers hold no negative ones. -/
structure HasPlainNumbers (v : Value) : Prop where
  length : (innerField v "length").NoNegative
  lengths : ∀ items, innerField v "length" = .list items → ∀ w ∈ items, w.NoNegative
  scale : (innerField v "scale").NoNegative

theorem nonneg_of_numbersOf {vs : List Value} (hvs : ∀ v ∈ vs, v.NoNegative) {ns : List Int}
    (h : numbersOf vs = .ok ns) : ∀ n ∈ ns, 0 ≤ n := by
  induction vs generalizing ns with
  | nil =>
    obtain rfl := Except.ok.inj h
    exact nofun
  | cons v vs ih =>
    rw [List.forall_mem_cons] at hvs
    rw [numbersOf] at h
    cases hv : v.toInt? with
    | error e => rw [hv] at h; cases h
    | ok found =>
      cases hrest : numbersOf vs with
      | error e => rw [hv, hrest] at h; cases h
      | ok ms =>
        rw [hv, hrest] at h
        obtain rfl := Except.ok.inj h
        intro n hn
        rcases List.mem_append.mp hn with hn | hn
        · obtain rfl : found = some n := by simpa using hn
          exact hvs.1 n hv
        · exact ih hvs.2 hrest n hn

theorem nonneg_of_fieldNumbers {v : Value} (hv : HasPlainNumbers v) {ns : List Int} (h : fieldNumbers v = .ok ns) :
    ∀ n ∈ ns, 0 ≤ n := by
  rw [fieldNumbers] at h
  split at h
  · obtain rfl := Except.ok.inj h
    exact List.forall_mem_nil _
  · next items hitems => exact nonneg_of_numbersOf (hv.lengths items hitems) h
  · split at h
    · cases h
    · obtain rfl := Except.ok.inj h
      exact List.forall_mem_nil _
    · next n hn =>
      cases hscale : (innerField v "scale").toInt? with
      | error e => rw [hscale] at h; cases h
      | ok found =>
        rw [hscale] at h
        obtain rfl := Except.ok.inj h
        rw [List.forall_mem_cons]
        refine ⟨hv.length n hn, fun m hm => ?_⟩
        obtain rfl : found = some m := by simpa using hm
        exact hv.scale m hscale

theorem nonneg_of_writtenNumbers {v : Value} (hv : HasPlainNumbers v) {ns : List Int}
    (h : writtenNumbers v = .ok ns) : ∀ n ∈ ns, 0 ≤ n := by
  rw [writtenNumbers] at h
  split at h
  · rw [suffixNumbers] at h
    split at h
    · obtain rfl := Except.ok.inj h
      exact List.forall_mem_nil _
    · refine nonneg_of_numbersOf (List.forall_mem_map.mpr fun part _ => Value.noNegative_text _) h
  · exact nonneg_of_fieldNumbers hv h

theorem hasNonnegativeNumbers_of_ofValue? {v : Value} (hv : HasPlainNumbers v) {e : ColumnDefinition}
    (h : ofValue? v = .ok (some e)) : e.HasNonnegativeNumbers := by
  unfold ofValue? at h
  split at h
  · cases h
  split at h
  · cases h
  · dsimp only at h
    split at h
    · cases h
    · cases hnumbers : writtenNumbers v with
      | error e => rw [hnumbers] at h; cases h
      | ok ns =>
        rw [hnumbers] at h
        obtain rfl := Option.some.inj (Except.ok.inj h)
        exact fun n hn => nonneg_of_writtenNumbers hv hnumbers n (Column.mem_of_typeNumbers hn)

end ColumnDefinition

/-! ### Descriptions of statements -/

namespace Sql.Describe

variable {d : Dialect}

theorem nonneg_of_numbers {ps : List (List Char)} {ns : List Int} (h : numbers ps = .ok ns) : ∀ n ∈ ns, 0 ≤ n := by
  induction ps generalizing ns with
  | nil =>
    obtain rfl := Except.ok.inj h
    exact nofun
  | cons p ps ih =>
    rw [numbers] at h
    split at h
    · split at h
      · next n _ =>
        cases hrest : numbers ps with
        | error e => rw [hrest] at h; cases h
        | ok ms =>
          rw [hrest] at h
          obtain rfl := Except.ok.inj h
          rw [List.forall_mem_cons]
          exact ⟨Int.natCast_nonneg n, ih hrest⟩
      · cases h
    · exact ih h

/-- The description of a type has no other numbers than those of its text. -/
theorem dataType_cases {t : Option TypeExpr} {written : Option String} {v : Value} (h : dataType d t written = .ok v) :
    v = .record [] ∨ ∃ name ns, v = .record (("dataType", .text name) :: lengthField ns) ∧ ∀ n ∈ ns, 0 ≤ n := by
  cases t with
  | none =>
    obtain rfl := Except.ok.inj h
    exact Or.inl rfl
  | some t =>
    have hparts : ∀ parameters rest, (do
        let ns ← numbers parameters
        let name := (written.filter (· != "")).getD rest
        return Value.record (("dataType", .text (Text.collapse (Text.upper name))) :: lengthField ns)) = .ok v →
        ∃ name ns, v = .record (("dataType", .text name) :: lengthField ns) ∧ ∀ n ∈ ns, 0 ≤ n := by
      intro parameters rest h
      cases hns : numbers parameters with
      | error e => rw [hns] at h; cases h
      | ok ns =>
        rw [hns] at h
        obtain rfl := Except.ok.inj h
        exact ⟨_, ns, rfl, nonneg_of_numbers hns⟩
    exact Or.inr (hparts _ _ h)

/-- The numbers of a type are fields with one of them or with two. -/
theorem plainNumbers_of_dataType {t : Option TypeExpr} {written : Option String} {v : Value}
    (h : dataType d t written = .ok v) :
    (v.get "length").NoNegative ∧ (∀ items, v.get "length" = .list items → ∀ w ∈ items, w.NoNegative) ∧
      (v.get "scale").NoNegative := by
  rcases dataType_cases h with rfl | ⟨name, ns, rfl, hns⟩
  · exact ⟨nofun, nofun, nofun⟩
  · match ns, hns with
    | [], _ => exact ⟨nofun, nofun, nofun⟩
    | [n], hns => exact ⟨Value.noNegative_int (hns n (by simp)), nofun, nofun⟩
    | n :: m :: _, hns =>
      refine ⟨nofun, ?_, nofun⟩
      rintro items ⟨⟩
      simp only [List.forall_mem_cons]
      exact ⟨Value.noNegative_int (hns n (by simp)), Value.noNegative_int (hns m (by simp)), nofun⟩

/-- Rules give a column no other fields than these. -/
theorem name_mem_of_mem_fields (cs : List ColumnConstraint) (p : ColumnParts)
    (hp : ∀ f ∈ p.fields, f.1 ∈ ["nullable", "default_val"]) :
    ∀ f ∈ (cs.foldl (ColumnParts.add d) p).fields, f.1 ∈ ["nullable", "default_val"] := by
  induction cs generalizing p with
  | nil => exact hp
  | cons c cs ih =>
    refine ih (p.add d c) ?_
    have hset {name : String} {v : Value} (hname : name ∈ ["nullable", "default_val"]) :
        ∀ f ∈ (p.setField name v).fields, f.1 ∈ ["nullable", "default_val"] := by
      intro f hf
      rcases List.mem_append.mp hf with hf | hf
      · exact hp f (List.mem_of_mem_filter hf)
      · obtain rfl := List.mem_singleton.mp hf
        exact hname
    unfold ColumnParts.add
    dsimp only
    split <;> first | exact hset (by simp) | exact hp | skip
    split <;> exact hp

theorem lookup_toFields_eq_none (p : ColumnParts) (hp : ∀ f ∈ p.fields, f.1 ∈ ["nullable", "default_val"])
    {name : String} (hname : name ∉ ["nullable", "default_val", "constraint", "options"]) :
    p.toFields.lookup name = none := by
  have hlist (field : String) (items : List Value) :
      ∀ f ∈ ColumnParts.listField field items, f.1 = field := by
    rw [ColumnParts.listField]
    split
    · exact List.forall_mem_nil _
    · simp
  refine List.lookup_eq_none_iff.mpr fun f hf => ?_
  rw [bne_iff_ne]
  rintro rfl
  rw [ColumnParts.toFields, List.mem_append, List.mem_append] at hf
  rcases hf with (hf | hf) | hf
  · have hmem := hp f hf
    simp only [List.mem_cons, List.not_mem_nil, or_false] at hmem hname
    tauto
  · simp [hlist _ _ f hf] at hname
  · simp [hlist _ _ f hf] at hname

theorem hasPlainNumbers_of_column {name : String} {t : Option TypeExpr} {cs : List ColumnConstraint}
    {written : Option String} {v : Value} (h : column d name t cs written = .ok v) :
    ColumnDefinition.HasPlainNumbers v := by
  rw [column] at h
  cases htype : dataType d t written with
  | error e => rw [htype] at h; cases h
  | ok definition =>
    rw [htype] at h
    obtain rfl := Except.ok.inj h
    have hother {field : String} (hfield : field = "length" ∨ field = "scale") :
        ColumnDefinition.innerField (.record ([("resource", .text "column"), ("column", columnRef name),
          ("definition", definition)] ++ (cs.foldl (ColumnParts.add d) {}).toFields)) field =
            definition.get field := by
      have hnone : (cs.foldl (ColumnParts.add d) {}).toFields.lookup field = none :=
        lookup_toFields_eq_none _ (name_mem_of_mem_fields cs {} nofun) (by rcases hfield with rfl | rfl <;> decide)
      have hget : (Value.record ([("resource", .text "column"), ("column", columnRef name),
          ("definition", definition)] ++ (cs.foldl (ColumnParts.add d) {}).toFields)).get field = .null := by
        rw [Value.get, List.lookup_append, hnone]
        rcases hfield with rfl | rfl <;> rfl
      rw [ColumnDefinition.innerField, hget, Ddl.Line.firstOf_null]
      rfl
    obtain ⟨hlength, hlengths, hscale⟩ := plainNumbers_of_dataType htype
    rw [← hother (Or.inl rfl)] at hlength hlengths
    rw [← hother (Or.inr rfl)] at hscale
    exact ⟨hlength, hlengths, hscale⟩

/-- Only the description of a column gives a definition. -/
theorem exists_column_of_ofValue? {types : List (String × String)} {item : TableItem} {v : Value}
    (h : tableItem d types item = .ok v) {e : ColumnDefinition} (he : ColumnDefinition.ofValue? v = .ok (some e)) :
    ∃ name type constraints, item = .column name type constraints := by
  have hnone (name : Option String) (type : String) (fields : List (String × Value))
      (hfields : fields.lookup "column" = none) :
      ColumnDefinition.ofValue? (constraint name type fields) ≠ .ok (some e) := by
    have hget : (constraint name type fields).get "column" = .null := by
      show ((_ :: _ :: _ :: fields : List (String × Value)).lookup "column").getD .null = .null
      simp [List.lookup_cons, hfields]
    unfold ColumnDefinition.ofValue?
    rw [if_neg (by simp [constraint, Value.isRecord]), hget]
    intro h
    cases h
  cases item with
  | column name type constraints => exact ⟨name, type, constraints, rfl⟩
  | value i x =>
    obtain rfl := Except.ok.inj h
    exact (hnone _ _ _ rfl he).elim
  | rule i r =>
    obtain rfl := Except.ok.inj h
    revert he
    unfold tableRule
    split
    · exact fun he => (hnone _ _ _ rfl he).elim
    · next k =>
      refine fun he => (hnone _ _ _ ?_ he).elim
      cases k.reference <;> rfl
    all_goals exact fun he => (hnone _ _ _ rfl he).elim

theorem hasPlainNumbers_of_tableItem {types : List (String × String)} {item : TableItem} {v : Value}
    (h : tableItem d types item = .ok v) {e : ColumnDefinition} (he : ColumnDefinition.ofValue? v = .ok (some e)) :
    ColumnDefinition.HasPlainNumbers v := by
  obtain ⟨name, type, constraints, rfl⟩ := exists_column_of_ofValue? h he
  exact hasPlainNumbers_of_column h

theorem exists_of_mem_mapM {α β ε : Type} {f : α → Except ε β} {as : List α} {bs : List β} (h : as.mapM f = .ok bs)
    {b : β} (hb : b ∈ bs) : ∃ a ∈ as, f a = .ok b := by
  induction as generalizing bs with
  | nil =>
    obtain rfl := Except.ok.inj h
    cases hb
  | cons a as ih =>
    rw [List.mapM_cons] at h
    cases ha : f a with
    | error e => rw [ha] at h; cases h
    | ok c =>
      cases has : as.mapM f with
      | error e => rw [ha, has] at h; cases h
      | ok cs =>
        rw [ha, has] at h
        obtain rfl := Except.ok.inj h
        rcases List.mem_cons.mp hb with rfl | hb
        · exact ⟨a, by simp, ha⟩
        · obtain ⟨x, hx, hxb⟩ := ih has hb
          exact ⟨x, by simp [hx], hxb⟩

/-- No definition in the description of a statement has negative numbers. -/
theorem hasNonnegativeNumbers_of_statement {types : SourceType.Types} {s : Statement} {v : Value}
    (h : statement d types s = .ok v) {item : Value} (hitem : item ∈ Extraction.columnDescriptions v)
    {e : ColumnDefinition} (he : ColumnDefinition.ofValue? item = .ok (some e)) : e.HasNonnegativeNumbers := by
  cases s with
  | createTable t items =>
    rw [statement] at h
    cases hitems : items.mapM (tableItem d
        (if t.name.text == "" then [] else SourceType.ofTable types t.name.text)) with
    | error f => rw [hitems] at h; cases h
    | ok definitions =>
      rw [hitems] at h
      obtain rfl := Except.ok.inj h
      have hmem : item ∈ definitions := List.mem_of_mem_filter hitem
      obtain ⟨x, -, hx⟩ := exists_of_mem_mapM hitems hmem
      exact ColumnDefinition.hasNonnegativeNumbers_of_ofValue? (hasPlainNumbers_of_tableItem hx he) he
  | create | alter | command | other =>
    obtain rfl := Except.ok.inj h
    cases hitem

end Sql.Describe

/-! ### Extracted tables -/

namespace Extraction

/-- Each column of a source has the numbers of a definition in its statement. -/
theorem exists_definition_of_mem {n m : Nat} {name : String} {v : Value} {s : TableSource}
    (h : source? n name v = .ok (some (s, m))) {c : Column} (hc : c ∈ s.table.columns) :
    ∃ item ∈ columnDescriptions v, ∃ e, ColumnDefinition.ofValue? item = .ok (some e) ∧ c.numbers = e.numbers := by
  obtain ⟨ds, hds, -, -, -, -, hcolumns⟩ := exists_of_source? h
  rw [hcolumns] at hc
  obtain ⟨b, hb, hmarks⟩ := exists_of_mem_right (applyConstraints_marks _ _) hc
  obtain ⟨k, e, he, rfl⟩ := exists_of_mem_columns ds n hb
  obtain ⟨item, hitem, hvalue⟩ := exists_of_mem_definitions _ hds he
  exact ⟨item, hitem, e, hvalue, hmarks.numbers_eq⟩

end Extraction

/-! ### Schemas of scripts -/

theorem Script.exists_of_mem_describe {d : Dialect} {text : List Char} {types : SourceType.Types}
    {ss : List Statement} {vs : List Value} (h : describe d text types ss = .ok vs) :
    ∀ v ∈ vs, ∃ s ∈ ss, Describe.statement d types s = .ok v := by
  induction ss generalizing vs with
  | nil =>
    obtain rfl := Except.ok.inj h
    exact nofun
  | cons s ss ih =>
    rw [describe] at h
    cases hcommand : checkCommand text s with
    | error f => rw [hcommand] at h; cases h
    | ok u =>
      cases hs : Describe.statement d types s with
      | error f => rw [hcommand, hs] at h; cases h
      | ok w =>
        cases hss : describe d text types ss with
        | error f => rw [hcommand, hs, hss] at h; cases h
        | ok ws =>
          rw [hcommand, hs, hss] at h
          obtain rfl := Except.ok.inj h
          intro v hv
          rcases List.mem_cons.mp hv with rfl | hv
          · exact ⟨s, by simp, hs⟩
          · obtain ⟨x, hx, hxv⟩ := ih hss v hv
            exact ⟨x, by simp [hx], hxv⟩

theorem Script.exists_of_mem_read {d : Dialect} {script : String} {vs : List Value} (h : read d script = .ok vs) :
    ∀ v ∈ vs, ∃ types s, Describe.statement d types s = .ok v := by
  rw [read] at h
  split at h
  · cases h
  · next found types _ =>
    intro v hv
    obtain ⟨s, -, hs⟩ := exists_of_mem_describe h v hv
    exact ⟨types, s, hs⟩

namespace Reading

variable {serial next : Nat} {script : String} {d : Dialect} {s : Schema}

/-- A schema comes from the descriptions of a script; a blank script has none. -/
theorem read_of_ofScript (h : ofScript serial script d = .ok (.schema s, next)) :
    s = {} ∧ serial = next ∨ ∃ vs, Script.read d script = .ok vs ∧ Schema.ofStatements serial vs = .ok (s, next) := by
  rw [ofScript] at h
  split at h
  · obtain ⟨hs, hnext⟩ := Prod.mk.inj (Except.ok.inj h)
    exact Or.inl ⟨(Reading.schema.inj hs).symm, hnext⟩
  split at h
  · next report _ =>
    cases he : ofReport report with
    | error f => rw [he] at h; cases h
    | ok e => rw [he] at h; cases h
  · cases h
  · next vs hread =>
    split at h
    · cases h
    · next t n hstatements =>
      obtain ⟨hs, rfl⟩ := Prod.mk.inj (Except.ok.inj h)
      obtain rfl := Reading.schema.inj hs
      exact Or.inr ⟨vs, hread, hstatements⟩

theorem exists_statements (h : ofScript serial script d = .ok (.schema s, next)) :
    ∃ vs, (∀ v ∈ vs, ∃ types x, Describe.statement d types x = .ok v) ∧
      Schema.ofStatements serial vs = .ok (s, next) := by
  rcases read_of_ofScript h with ⟨rfl, rfl⟩ | ⟨vs, hread, hstatements⟩
  · exact ⟨[], nofun, rfl⟩
  · exact ⟨vs, Script.exists_of_mem_read hread, hstatements⟩

theorem hasNonnegativeNumbers_of_ofScript (h : ofScript serial script d = .ok (.schema s, next)) :
    ∀ t ∈ s.tables, ∀ c ∈ t.columns, c.HasNonnegativeNumbers := by
  obtain ⟨vs, hvs, hstatements⟩ := exists_statements h
  intro t ht c hc
  obtain ⟨before, v, after, rfl, hv⟩ := Extraction.exists_statement hstatements ht
  obtain ⟨n, m, src, hsource, rfl⟩ := hv.source_eq
  obtain ⟨types, x, hx⟩ := hvs v (by simp)
  obtain ⟨item, hitem, e, he, hnumbers⟩ := Extraction.exists_definition_of_mem hsource hc
  have hnonneg := Describe.hasNonnegativeNumbers_of_statement hx hitem he
  rwa [ColumnDefinition.HasNonnegativeNumbers, ← hnumbers] at hnonneg

end Reading

end SchemaDesk
