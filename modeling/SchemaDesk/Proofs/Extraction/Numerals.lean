import SchemaDesk.Proofs.Extraction.Content
import SchemaDesk.Proofs.Extraction.Origin

/-!
When there is a definition of a column and a schema of statements. There is one unless a value that is read for the
numbers of a type is a text of digits that form no numeral; nothing else in a description is at fault.
-/

namespace SchemaDesk

/-! ### Numerals -/

namespace Text

theorem readDigits_eq_none_iff {cs : List Char} (h : '_' ∉ cs) (acc : Nat) :
    readDigits acc cs = none ↔ ∃ c ∈ cs, isDecimal c = false := by
  induction cs generalizing acc with
  | nil => simp [readDigits]
  | cons c cs ih =>
    obtain ⟨hc, hcs⟩ : '_' ≠ c ∧ '_' ∉ cs := by simpa [not_or] using h
    rw [readDigits.eq_def]
    split
    · next heq => cases heq
    · next heq => exact (hc (List.cons.inj heq).1.symm).elim
    · next heq =>
      obtain ⟨rfl, rfl⟩ := List.cons.inj heq
      rw [List.exists_mem_cons_iff]
      split
      · next d hd => rw [ih hcs]; simp [isDecimal, hd]
      · next hd => simp [isDecimal, hd]

theorem isDigit_underscore : isDigit '_' = false := by decide +kernel

/-- Digits are a numeral exactly if all of them are decimal ones. -/
theorem readNat?_eq_none_iff {cs : List Char} (h : allDigits cs = true) :
    readNat? cs = none ↔ ∃ c ∈ cs, isDecimal c = false := by
  obtain ⟨hne, hdigits⟩ : cs ≠ [] ∧ ∀ c ∈ cs, isDigit c = true := by simpa [allDigits] using h
  cases cs with
  | nil => exact (hne rfl).elim
  | cons c cs =>
    have hunderscore : '_' ∉ cs := by
      intro hmem
      have hdigit := hdigits '_' (List.mem_cons_of_mem c hmem)
      rw [isDigit_underscore] at hdigit
      cases hdigit
    rw [readNat?, List.exists_mem_cons_iff]
    cases hd : digitValue? c with
    | none => simp [isDecimal, hd]
    | some d => simp [isDecimal, hd, readDigits_eq_none_iff hunderscore]

end Text

namespace Value

/-- The value is a text of digits, or a record with one under `value`, and one of the digits is no decimal digit. -/
def IsOddNumeral (v : Value) : Prop :=
  ∃ s, v.unwrapped = .text s ∧ Text.allDigits (Text.stripChars s.toList) = true ∧
    ∃ c ∈ Text.stripChars s.toList, Text.isDecimal c = false

theorem exists_toInt?_eq_ok_iff {v : Value} : (∃ n, v.toInt? = .ok n) ↔ ¬ v.IsOddNumeral := by
  rw [toInt?, IsOddNumeral]
  cases hv : v.unwrapped with
  | text s =>
    cases hdigits : Text.allDigits (Text.stripChars s.toList) with
    | false => simp [hdigits]
    | true =>
      have hnone := Text.readNat?_eq_none_iff hdigits
      cases hread : Text.readNat? (Text.stripChars s.toList) with
      | none =>
        have hodd := hnone.mp hread
        simp [hdigits, hread, hodd]
      | some n =>
        have hodd : ¬ ∃ c ∈ Text.stripChars s.toList, Text.isDecimal c = false := by
          rw [← hnone, hread]
          exact nofun
        simp [hdigits, hread, hodd]
  | null | bool | int | real | list | record => simp

theorem asList_cases (v : Value) : v = null ∨ (∃ items, v = list items) ∨ v.asList = [v] := by
  cases v with
  | null => exact Or.inl rfl
  | list items => exact Or.inr (Or.inl ⟨items, rfl⟩)
  | bool | int | real | text | record => exact Or.inr (Or.inr rfl)

end Value

/-! ### Definitions of columns -/

namespace ColumnDefinition

theorem exists_map_eq_ok_iff {α β ε : Type} {x : Except ε α} {f : α → β} :
    (∃ b, x.map f = .ok b) ↔ ∃ a, x = .ok a := by
  cases x <;> simp [Except.map]

theorem exists_numbersOf_eq_ok_iff {vs : List Value} :
    (∃ ns, numbersOf vs = .ok ns) ↔ ∀ v ∈ vs, ¬ v.IsOddNumeral := by
  induction vs with
  | nil => simp [numbersOf]
  | cons v vs ih =>
    rw [List.forall_mem_cons, ← Value.exists_toInt?_eq_ok_iff, ← ih, numbersOf]
    cases hv : v.toInt? with
    | error e => simp
    | ok n => simpa using exists_map_eq_ok_iff

theorem numbersOf_eq_nil_iff {vs : List Value} : numbersOf vs = .ok [] ↔ ∀ v ∈ vs, v.toInt? = .ok none := by
  induction vs with
  | nil => simp [numbersOf]
  | cons v vs ih =>
    rw [List.forall_mem_cons, ← ih, numbersOf]
    cases hv : v.toInt? with
    | error e => simp
    | ok n =>
      cases hvs : numbersOf vs with
      | error e => simp [Except.map]
      | ok ns => cases n <;> simp [Except.map]

/-- The values of a description that are read for the numbers of its type: the length, or each of several; the scale
next to one length that is a number; and where no length is a number, what stands between the commas in the first
parentheses of the written type. -/
inductive IsNumberSource (item : Value) : Value → Prop
  | length {w : Value} (hw : w ∈ (innerField item "length").asList) : IsNumberSource item w
  | scale {n : Int} (hn : (innerField item "length").toInt? = .ok (some n)) :
      IsNumberSource item (innerField item "scale")
  | suffix {inner part : List Char} (hnone : ∀ w ∈ (innerField item "length").asList, w.toInt? = .ok none)
      (hinner : parenthesised? (writtenType item).toList = some inner) (hpart : part ∈ inner.splitOnP (· == ',')) :
      IsNumberSource item (.text (String.ofList part))

/-- A length that is no list may stand with a scale. -/
theorem fieldNumbers_of_asList {item : Value}
    (h : (innerField item "length").asList = [innerField item "length"]) :
    fieldNumbers item = match (innerField item "length").toInt? with
      | .error e => .error e
      | .ok none => .ok []
      | .ok (some n) => ((innerField item "scale").toInt?).map fun s => n :: s.toList := by
  rw [fieldNumbers]
  split
  · next hnull =>
    rw [hnull] at h
    cases h
  · next items hlist =>
    rw [hlist] at h
    have hsize : sizeOf items = sizeOf [Value.list items] := congrArg sizeOf h
    simp at hsize
    omega
  · rfl

theorem exists_fieldNumbers_eq_ok_iff (item : Value) :
    (∃ ns, fieldNumbers item = .ok ns) ↔ (∀ w ∈ (innerField item "length").asList, ¬ w.IsOddNumeral) ∧
      ∀ n, (innerField item "length").toInt? = .ok (some n) → ¬ (innerField item "scale").IsOddNumeral := by
  rcases (innerField item "length").asList_cases with hnull | ⟨items, hlist⟩ | hone
  · simp [fieldNumbers, hnull, Value.asList, Value.toInt?, Value.unwrapped]
  · simpa [fieldNumbers, hlist, Value.asList, Value.toInt?, Value.unwrapped] using exists_numbersOf_eq_ok_iff
  · rw [fieldNumbers_of_asList hone, hone, List.forall_mem_singleton, ← Value.exists_toInt?_eq_ok_iff,
      ← Value.exists_toInt?_eq_ok_iff]
    cases (innerField item "length").toInt? with
    | error e => simp
    | ok n =>
      cases n with
      | none => simp
      | some n => simpa using exists_map_eq_ok_iff

theorem fieldNumbers_eq_nil_iff (item : Value) :
    fieldNumbers item = .ok [] ↔ ∀ w ∈ (innerField item "length").asList, w.toInt? = .ok none := by
  rcases (innerField item "length").asList_cases with hnull | ⟨items, hlist⟩ | hone
  · simp [fieldNumbers, hnull, Value.asList]
  · simpa [fieldNumbers, hlist, Value.asList] using numbersOf_eq_nil_iff
  · rw [fieldNumbers_of_asList hone, hone, List.forall_mem_singleton]
    cases (innerField item "length").toInt? with
    | error e => simp
    | ok n =>
      cases n with
      | none => simp
      | some n => cases (innerField item "scale").toInt? <;> simp [Except.map]

theorem exists_suffixNumbers_eq_ok_iff (item : Value) :
    (∃ ns, suffixNumbers item = .ok ns) ↔ ∀ inner, parenthesised? (writtenType item).toList = some inner →
      ∀ part ∈ inner.splitOnP (· == ','), ¬ (Value.text (String.ofList part)).IsOddNumeral := by
  rw [suffixNumbers]
  cases parenthesised? (writtenType item).toList with
  | none => simp
  | some inner => simp [exists_numbersOf_eq_ok_iff]

/-- The numbers of a type are read unless one of the values to read is an odd numeral. -/
theorem exists_writtenNumbers_eq_ok_iff (item : Value) :
    (∃ ns, writtenNumbers item = .ok ns) ↔ ∀ w, IsNumberSource item w → ¬ w.IsOddNumeral := by
  have hfields := exists_fieldNumbers_eq_ok_iff item
  have hnil := fieldNumbers_eq_nil_iff item
  have hsuffix := exists_suffixNumbers_eq_ok_iff item
  constructor
  · intro hread w hw
    have hfieldsRead : ∃ ns, fieldNumbers item = .ok ns := by
      cases hf : fieldNumbers item with
      | error e =>
        rw [writtenNumbers, hf] at hread
        exact hread.elim nofun
      | ok ns => exact ⟨ns, rfl⟩
    cases hw with
    | length hw => exact (hfields.mp hfieldsRead).1 w hw
    | scale hn => exact (hfields.mp hfieldsRead).2 _ hn
    | suffix hnone hinner hpart =>
      rw [writtenNumbers, hnil.mpr hnone] at hread
      exact hsuffix.mp hread _ hinner _ hpart
  · intro hall
    obtain ⟨ns, hns⟩ := hfields.mpr ⟨fun w hw => hall w (.length hw), fun n hn => hall _ (.scale hn)⟩
    rw [writtenNumbers, hns]
    cases ns with
    | nil => exact hsuffix.mpr fun inner hinner part hpart => hall _ (.suffix (hnil.mp hns) hinner hpart)
    | cons n ns => exact ⟨n :: ns, rfl⟩

/-- The description has a name and a type, and a value that is read for the numbers of the type is an odd numeral. -/
def HasOddNumeral (item : Value) : Prop :=
  (∃ name, (item.get "column").nameText? = some name) ∧ ColumnType.normalSpelling (writtenType item) ≠ "" ∧
    ∃ w, IsNumberSource item w ∧ w.IsOddNumeral

theorem exists_ofValue?_eq_ok_iff {item : Value} : (∃ d, ofValue? item = .ok d) ↔ ¬ HasOddNumeral item := by
  have hnumbers := exists_writtenNumbers_eq_ok_iff item
  cases hname : (item.get "column").nameText? with
  | none =>
    have hread : ∃ d, ofValue? item = .ok d := by
      rw [ofValue?, hname]
      split <;> exact ⟨none, rfl⟩
    simp [HasOddNumeral, hname, hread]
  | some name =>
    have hrecord : item.isRecord = true := by
      cases item <;> first | rfl | cases hname
    by_cases htype : ColumnType.normalSpelling (writtenType item) = ""
    · simp [HasOddNumeral, ofValue?, hrecord, hname, htype]
    · have hodd : HasOddNumeral item ↔ ∃ w, IsNumberSource item w ∧ w.IsOddNumeral := by
        simp [HasOddNumeral, hname, htype]
      have hmap : (∃ d, ofValue? item = .ok d) ↔ ∃ ns, writtenNumbers item = .ok ns := by
        simp only [ofValue?, hrecord, hname, Bool.not_true, Bool.false_eq_true, if_false, beq_iff_eq, htype]
        exact exists_map_eq_ok_iff
      rw [hmap, hnumbers, hodd]
      simp

end ColumnDefinition

/-! ### Schemas of statements -/

namespace Extraction

open ColumnDefinition

theorem exists_definitions_eq_ok_iff (items : List Value) :
    (∃ ds, definitions items = .ok ds) ↔ ∀ item ∈ items, ¬ HasOddNumeral item := by
  induction items with
  | nil => simp [definitions]
  | cons item items ih =>
    rw [List.forall_mem_cons, ← exists_ofValue?_eq_ok_iff, ← ih, definitions]
    cases ofValue? item with
    | error e => simp
    | ok d => simpa using exists_map_eq_ok_iff

theorem exists_source?_eq_error_iff (serial : Nat) (name : String) (v : Value) :
    (∃ e, source? serial name v = .error e) ↔ ∃ item ∈ columnDescriptions v, HasOddNumeral item := by
  have hdefinitions := exists_definitions_eq_ok_iff (columnDescriptions v)
  rw [source?]
  cases hread : definitions (columnDescriptions v) with
  | error e =>
    rw [hread] at hdefinitions
    simpa [Except.map] using hdefinitions
  | ok ds =>
    rw [hread] at hdefinitions
    simpa [Except.map] using hdefinitions

theorem columnItems_ne_nil_of_source? {n m : Nat} {name : String} {v : Value} {s : TableSource}
    (h : source? n name v = .ok (some (s, m))) : columnItems v ≠ [] := by
  obtain ⟨ds, hdefinitions, hne, -⟩ := exists_of_source? h
  intro hnil
  have hitems := forall₂_definitions hdefinitions
  rw [show (columnDescriptions v).filter (fun item => (definition? item).isSome) = [] from hnil] at hitems
  exact hne (List.forall₂_nil_left_iff.mp hitems)

/-- The statement creates a table of a name that no source has, and no statement before it gives one either. -/
def IsFirstOfName (found : List TableSource) (before : List Value) (v : Value) : Prop :=
  ∃ name, createdName? v = some name ∧ findSource? found name = none ∧
    ∀ w ∈ before, ∀ other, createdName? w = some other → Text.sameName other name → columnItems w = []

theorem isFirstOfName_cons_iff {found : List TableSource} {before : List Value} {v w : Value} :
    IsFirstOfName found (v :: before) w ↔ IsFirstOfName found before w ∧
      ∀ name other, createdName? w = some name → createdName? v = some other → Text.sameName other name →
        columnItems v = [] := by
  constructor
  · rintro ⟨name, hname, hnew, hbefore⟩
    rw [List.forall_mem_cons] at hbefore
    refine ⟨⟨name, hname, hnew, hbefore.2⟩, fun name' other hname' => ?_⟩
    obtain rfl : name = name' := Option.some.inj (hname.symm.trans hname')
    exact hbefore.1 other
  · rintro ⟨⟨name, hname, hnew, hbefore⟩, hv⟩
    exact ⟨name, hname, hnew, List.forall_mem_cons.mpr ⟨fun other => hv name other hname, hbefore⟩⟩

theorem isFirstOfName_concat_iff {found : List TableSource} {s : TableSource} {before : List Value} {w : Value} :
    IsFirstOfName (found ++ [s]) before w ↔ IsFirstOfName found before w ∧
      ∀ name, createdName? w = some name → Text.lower s.table.name ≠ Text.lower name := by
  simp only [IsFirstOfName, findSource?_eq_none_iff, List.forall_mem_append, List.forall_mem_singleton]
  constructor
  · rintro ⟨name, hname, ⟨hfound, hs⟩, hbefore⟩
    refine ⟨⟨name, hname, hfound, hbefore⟩, fun name' hname' => ?_⟩
    obtain rfl : name = name' := Option.some.inj (hname.symm.trans hname')
    exact hs
  · rintro ⟨⟨name, hname, hfound, hbefore⟩, hs⟩
    exact ⟨name, hname, ⟨hfound, hs name hname⟩, hbefore⟩

theorem exists_split_cons_iff {α : Type} {a : α} {as : List α} {p : List α → α → Prop} :
    (∃ before b after, a :: as = before ++ b :: after ∧ p before b) ↔
      p [] a ∨ ∃ before b after, as = before ++ b :: after ∧ p (a :: before) b := by
  constructor
  · rintro ⟨before, b, after, heq, hb⟩
    cases before with
    | nil =>
      obtain ⟨rfl, -⟩ := List.cons.inj heq
      exact Or.inl hb
    | cons c before =>
      obtain ⟨rfl, rfl⟩ := List.cons.inj heq
      exact Or.inr ⟨before, b, after, rfl, hb⟩
  · rintro (ha | ⟨before, b, after, rfl, hb⟩)
    · exact ⟨[], a, as, rfl, ha⟩
    · exact ⟨a :: before, b, after, rfl, hb⟩

/-- The search for tables fails at the first statement of a new name in which a column has an odd numeral. -/
theorem sourcesFrom_fails_iff (vs : List Value) : ∀ (serial : Nat) (found : List TableSource),
    (∃ e, sourcesFrom serial found vs = .error e) ↔ ∃ before v after, vs = before ++ v :: after ∧
      IsFirstOfName found before v ∧ ∃ item ∈ columnDescriptions v, HasOddNumeral item := by
  induction vs with
  | nil => simp [sourcesFrom]
  | cons v vs ih =>
    intro serial found
    -- A statement that does not fail leaves the rest to the sources known behind it.
    have hskip {n : Nat} {found' : List TableSource}
        (hv : ¬ (IsFirstOfName found [] v ∧ ∃ item ∈ columnDescriptions v, HasOddNumeral item))
        (hrest : ∀ before w, IsFirstOfName found' before w ↔ IsFirstOfName found (v :: before) w) :
        (∃ e, sourcesFrom n found' vs = .error e) ↔ ∃ before w after, v :: vs = before ++ w :: after ∧
          IsFirstOfName found before w ∧ ∃ item ∈ columnDescriptions w, HasOddNumeral item := by
      rw [exists_split_cons_iff, or_iff_right hv, ih]
      simp only [hrest]
    have hunfold : (if createsTable v then tableName? v else none) = createdName? v := rfl
    rw [sourcesFrom, hunfold]
    cases hname : createdName? v with
    | none =>
      refine hskip ?_ fun before w => ?_
      · rintro ⟨⟨name, hfirst, -⟩, -⟩
        cases hname.symm.trans hfirst
      · rw [isFirstOfName_cons_iff, and_iff_left]
        intro _ _ _ hv
        cases hname.symm.trans hv
    | some name =>
      dsimp only
      by_cases hknown : findSource? found name = none
      · simp only [hknown, Option.isSome_none, Bool.false_eq_true, if_false]
        have hfails := exists_source?_eq_error_iff serial name v
        cases hsource : source? serial name v with
        | error e =>
          have hodd := hfails.mp ⟨e, hsource⟩
          refine iff_of_true ⟨e, rfl⟩ ⟨[], v, vs, rfl, ⟨name, hname, hknown, List.forall_mem_nil _⟩, hodd⟩
        | ok found? =>
          have hnumerals : ¬ ∃ item ∈ columnDescriptions v, HasOddNumeral item := by
            rw [← hfails, hsource]
            simp
          cases found? with
          | none =>
            refine hskip (fun h => hnumerals h.2) fun before w => ?_
            rw [isFirstOfName_cons_iff, and_iff_left]
            exact fun _ _ _ _ _ => columnItems_eq_nil_of_source? hsource
          | some p =>
            obtain ⟨s, middle⟩ := p
            refine hskip (fun h => hnumerals h.2) fun before w => ?_
            rw [isFirstOfName_cons_iff, isFirstOfName_concat_iff, (madeFrom_of_source? hsource).name_eq, hname]
            refine and_congr_right fun _ => forall_congr' fun other => ?_
            simp [Text.sameName, columnItems_ne_nil_of_source? hsource]
      · have hsome : (findSource? found name).isSome = true := Option.isSome_iff_ne_none.mpr hknown
        rw [if_pos hsome]
        refine hskip ?_ fun before w => ?_
        · rintro ⟨⟨other, hother, hnew, -⟩, -⟩
          obtain rfl : name = other := Option.some.inj (hname.symm.trans hother)
          exact hknown hnew
        · rw [isFirstOfName_cons_iff, iff_self_and]
          rintro ⟨first, hfirst, hnew, -⟩ name' other hname' hother hsame
          obtain rfl : first = name' := Option.some.inj (hfirst.symm.trans hname')
          obtain rfl : name = other := Option.some.inj (hname.symm.trans hother)
          exact (hknown ((findSource?_congr hsame).trans hnew)).elim

theorem exists_ofStatements_eq_ok_iff {serial : Nat} {vs : List Value} :
    (∃ r, Schema.ofStatements serial vs = .ok r) ↔
      ∀ before v after, vs = before ++ v :: after → IsFirstOfName [] before v →
        ∀ item ∈ columnDescriptions v, ¬ HasOddNumeral item := by
  have hfails := sourcesFrom_fails_iff vs serial []
  have hmap : (∃ r, Schema.ofStatements serial vs = .ok r) ↔ ¬ ∃ e, sourcesFrom serial [] vs = .error e := by
    rw [Schema.ofStatements]
    cases sourcesFrom serial [] vs <;> simp [Except.map]
  rw [hmap, hfails]
  push Not
  rfl

/-- A definition is read from every description, and a schema from all statements, whatever they are, unless a column
that is looked at has an odd numeral. -/
theorem exists_result_iff (item : Value) (serial : Nat) (vs : List Value) :
    ((∃ d, ColumnDefinition.ofValue? item = .ok d) ↔ ¬ HasOddNumeral item) ∧
      ((∃ r, Schema.ofStatements serial vs = .ok r) ↔
        ∀ before v after, vs = before ++ v :: after → IsFirstOfName [] before v →
          ∀ item ∈ columnDescriptions v, ¬ HasOddNumeral item) :=
  ⟨exists_ofValue?_eq_ok_iff, exists_ofStatements_eq_ok_iff⟩

/-- A table with a column whose type has a superscript for its parameter. -/
def superscriptColumn : Value :=
  .record [("column", .text "a"), ("definition", .record [("dataType", .text "VARCHAR(²)")])]

def superscriptTable : Value :=
  .record [("type", .text "create"), ("keyword", .text "table"), ("table", .text "t"),
    ("create_definitions", .list [superscriptColumn])]

/-- There is no definition of such a column, and no schema of such a table. -/
theorem no_result_superscript :
    (¬ ∃ d, ColumnDefinition.ofValue? superscriptColumn = .ok d) ∧
      ¬ ∃ r, Schema.ofStatements 0 [superscriptTable] = .ok r := by
  have htype : writtenType superscriptColumn = "VARCHAR(²)" := by rfl
  have hinner : ColumnDefinition.parenthesised? (writtenType superscriptColumn).toList = some ['²'] := by
    rw [htype]
    decide +kernel
  have hodd : HasOddNumeral superscriptColumn := by
    refine ⟨⟨"a", rfl⟩, ?_, .text (String.ofList ['²']), ?_, "²", rfl, ?_, '²', ?_, ?_⟩
    · rw [htype]; decide +kernel
    · exact .suffix (List.forall_mem_nil _) hinner (by decide)
    · decide +kernel
    · decide +kernel
    · decide +kernel
  have hname : createdName? superscriptTable = some "t" := by rfl
  have hcolumn : superscriptColumn ∈ columnDescriptions superscriptTable :=
    List.mem_filter.mpr ⟨List.mem_singleton_self _, rfl⟩
  refine ⟨fun h => exists_ofValue?_eq_ok_iff.mp h hodd, ?_⟩
  rw [exists_ofStatements_eq_ok_iff]
  intro h
  exact h [] superscriptTable [] rfl ⟨"t", hname, rfl, List.forall_mem_nil _⟩ _ hcolumn hodd

end Extraction

end SchemaDesk
