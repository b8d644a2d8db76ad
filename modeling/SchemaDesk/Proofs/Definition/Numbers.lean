import Mathlib.Data.List.Forall2
import SchemaDesk.Proofs.ColumnType.NormalForm
import SchemaDesk.Proofs.Definition.Respelling
import SchemaDesk.Proofs.Extraction.Numerals
import SchemaDesk.Proofs.Text.Blank
import SchemaDesk.Proofs.Text.Digit
/-!
The numbers of a type. They may stand in parentheses behind its name or in fields next to it, and each of them may be a
number, a numeral or a record that holds one. The main result is that all these descriptions give the same definition.
-/

namespace SchemaDesk

namespace Text

/-- The text is the number in decimal digits, between blanks. -/
structure IsNumeral (s : String) (n : Nat) : Prop where
  nonempty : stripChars s.toList ≠ []
  digits : ∀ c ∈ stripChars s.toList, c.isDigit = true
  value : Nat.ofDigitChars 10 (stripChars s.toList) 0 = n

/-- A number in its decimal digits is a numeral, whatever blanks stand around it. -/
theorem isNumeral_toDigits {s : String} {n : Nat} (bs es : List Char) (hs : s.toList = bs ++ (Nat.toDigits 10 n ++ es))
    (hbs : ∀ b ∈ bs, isBlank b = true) (hes : ∀ e ∈ es, isBlank e = true) : IsNumeral s n := by
  have hstrip : stripChars s.toList = Nat.toDigits 10 n := by rw [hs, stripChars_toDigits hbs hes]
  constructor
  · rw [hstrip]
    exact Nat.toDigits_ne_nil
  · rw [hstrip]
    exact fun c hc => isDigit_of_mem_toDigits hc
  · rw [hstrip, Nat.ofDigitChars_ten_toDigits]

theorem isNumeral_natText (n : Nat) : IsNumeral (natText n) n := by
  refine isNumeral_toDigits [] [] ?_ nofun nofun
  rw [natText, String.toList_ofList, List.nil_append, List.append_nil]

namespace IsNumeral

variable {s : String} {n : Nat}

/-- There is nothing but digits and blanks in a numeral. -/
theorem notMem (h : IsNumeral s n) {c : Char} (hblank : isBlank c = false) (hdigit : c.isDigit = false) :
    c ∉ s.toList := by
  intro hc
  rw [h.digits c (mem_stripChars hblank hc)] at hdigit
  cases hdigit

end IsNumeral

end Text

namespace Value

/-- The value stands for a natural number. -/
inductive Denotes : Value → Nat → Prop
  | int (n : Nat) : Denotes (.int n) n
  | text {s : String} {n : Nat} (h : Text.IsNumeral s n) : Denotes (.text s) n
  | record {fields : List (String × Value)} {n : Nat} (h : Denotes ((record fields).get "value") n) :
      Denotes (.record fields) n

theorem unwrapped_record (fields : List (String × Value)) :
    (record fields).unwrapped = ((record fields).get "value").unwrapped := by
  rw [unwrapped]
  induction fields with
  | nil => rfl
  | cons f fields ih =>
    obtain ⟨key, v⟩ := f
    rw [unwrappedField, get_record_cons, ih]
    by_cases hkey : key = "value"
    · rw [hkey]
      rfl
    · rw [if_neg (by simpa using hkey), if_neg (by simpa using Ne.symm hkey)]

theorem Denotes.toInt?_eq {v : Value} {n : Nat} (h : Denotes v n) : v.toInt? = .ok (some n) := by
  induction h with
  | int n => rfl
  | @text s n h =>
    have hread := Text.readNat?_eq h.nonempty h.digits
    rw [h.value] at hread
    simp only [toInt?, unwrapped, Text.allDigits_of_isDigit h.nonempty h.digits, hread, if_true]
  | record h ih =>
    rw [toInt?, unwrapped_record, ← toInt?]
    exact ih

theorem Denotes.asList_eq {v : Value} {n : Nat} (h : Denotes v n) : v.asList = [v] := by
  cases h <;> rfl

end Value

namespace ColumnDefinition

theorem numbersOf_eq {vs : List Value} {ns : List Nat} (h : List.Forall₂ Value.Denotes vs ns) :
    numbersOf vs = .ok (ns.map Int.ofNat) := by
  induction h with
  | nil => rfl
  | cons hv _ ih =>
    rw [numbersOf, hv.toInt?_eq, ih]
    rfl

/-! ### Descriptions of types -/

/-- The description of a column by its name and the fields of its type. -/
def typed (column : Value) (fields : List (String × Value)) : Value :=
  .record [("column", column), ("definition", .record fields)]

def typeFields : List String := ["dataType", "length", "scale"]

/-- The definition of a column of which nothing but the type is known. -/
def ofType (name typeName : String) (numbers : TypeNumbers) : ColumnDefinition :=
  let serial := Text.hasWord typeName "SERIAL"
  { name, typeName, marks := { autoIncrement := serial, notNull := serial }, numbers }

section Typed

variable {column : Value} {fields : List (String × Value)}

theorem get_eq_null (hfields : ∀ f ∈ fields, f.1 ∈ typeFields) {name : String} (h : name ∉ typeFields) :
    (Value.record fields).get name = .null := by
  have hnone : fields.lookup name = none := by
    refine List.lookup_eq_none_iff.mpr fun f hf => bne_iff_ne.mpr ?_
    rintro rfl
    exact h (hfields f hf)
  rw [Value.get, hnone]
  rfl

theorem get_typed {name : String} (hcolumn : name ≠ "column") (hdefinition : name ≠ "definition") :
    (typed column fields).get name = .null := by
  rw [typed, Value.get_record_cons, Value.get_record_cons, if_neg (by simpa using hcolumn),
    if_neg (by simpa using hdefinition)]
  rfl

theorem field_eq_null (hfields : ∀ f ∈ fields, f.1 ∈ typeFields) {name : String}
    (h : name ∉ ["column", "definition"] ++ typeFields) :
    field (typed column fields) name = .null ∧ isSet (typed column fields) name = false := by
  rw [List.mem_append, not_or] at h
  simp only [List.mem_cons, List.not_mem_nil, or_false, not_or] at h
  have houter : (typed column fields).get name = .null := get_typed h.1.1 h.1.2
  have hinner : ((typed column fields).get "definition").get name = .null := get_eq_null hfields h.2
  constructor
  · rw [field, houter, hinner]
    rfl
  · rw [isSet, houter, hinner]
    rfl

/-- Only the type is read. -/
theorem ofValue?_typed (hfields : ∀ f ∈ fields, f.1 ∈ typeFields)
    (htype : ColumnType.normalSpelling (writtenType (typed column fields)) ≠ "") {ns : List Int}
    (hns : writtenNumbers (typed column fields) = .ok ns) :
    ofValue? (typed column fields) = .ok (column.nameText?.map fun name =>
      ofType name (ColumnType.normalSpelling (writtenType (typed column fields)))
        (typeNumbers (ColumnType.normalSpelling (writtenType (typed column fields))) ns)) := by
  generalize htypeName : ColumnType.normalSpelling (writtenType (typed column fields)) = typeName at htype ⊢
  have hnull {name : String} (h : name ∉ ["column", "definition"] ++ typeFields) :
      field (typed column fields) name = .null := (field_eq_null hfields h).1
  have hset {name : String} (h : name ∉ ["column", "definition"] ++ typeFields) :
      isSet (typed column fields) name = false := (field_eq_null hfields h).2
  have hconstraints : constraints (typed column fields) = [] := by
    rw [constraints, hnull (by decide)]
    rfl
  have hmarks : marksOf (typed column fields) typeName =
      { autoIncrement := Text.hasWord typeName "SERIAL", notNull := Text.hasWord typeName "SERIAL" } := by
    have hnullable : nullableMarks (typed column fields) = {} := by
      rw [nullableMarks, hnull (by decide)]
      decide +kernel
    have hunique : uniqueMarks (typed column fields) = {} := by
      rw [uniqueMarks, hnull (by decide)]
    rw [marksOf, hnullable, hunique, hset (by decide), hset (by decide), hset (by decide), hconstraints]
    simp [ColumnMarks.joinAll, ColumnMarks.join]
  have hdefault : defaultOf (typed column fields) = none := by
    rw [defaultOf, hnull (by decide)]
  have hreference : referenceOf (typed column fields) = none := by
    rw [referenceOf, hconstraints, get_typed (by decide) (by decide), get_typed (by decide) (by decide)]
    rfl
  have hcheck : lastCheck? (typed column fields) = none := by
    rw [lastCheck?, hconstraints]
    rfl
  have hextra : extraOf (typed column fields) = [] := by
    rw [extraOf, hcheck]
    rfl
  have hname : (typed column fields).get "column" = column := rfl
  rw [ofValue?, if_neg (by simp [typed, Value.isRecord]), hname]
  cases hcolumn : column.nameText? with
  | none => rfl
  | some name =>
    simp only [htypeName, beq_iff_eq, htype, if_false, hns, hmarks, hdefault, hreference, hcheck, hextra]
    rfl

end Typed

/-! ### The ways to write the numbers -/

/-- The fields say that the type has that name and these numbers: none, or some behind its name in one line, as in
`T(p)` and `T(p, s)`, or as its length, one or several in a list, a single one with a scale next to it. -/
inductive WritesType (T : String) : List Nat → List (String × Value) → Prop
  | plain : WritesType T [] [("dataType", .text T)]
  | behind {ts : List String} {ns : List Nat} (h : List.Forall₂ Text.IsNumeral ts ns) (hne : ns ≠ [])
      (hline : ∀ t ∈ ts, '\n' ∉ t.toList) :
      WritesType T ns [("dataType", .text (T ++ "(" ++ ",".intercalate ts ++ ")"))]
  | length {v : Value} {n : Nat} (h : v.Denotes n) : WritesType T [n] [("dataType", .text T), ("length", v)]
  | lengths {vs : List Value} {ns : List Nat} (h : List.Forall₂ Value.Denotes vs ns) (hne : ns ≠ []) :
      WritesType T ns [("dataType", .text T), ("length", .list vs)]
  | lengthAndScale {v w : Value} {n m : Nat} (hv : v.Denotes n) (hw : w.Denotes m) :
      WritesType T [n, m] [("dataType", .text T), ("length", v), ("scale", w)]

namespace WritesType

variable {T : String} {ns : List Nat} {fields : List (String × Value)} {column : Value}

theorem mem_typeFields (h : WritesType T ns fields) : ∀ f ∈ fields, f.1 ∈ typeFields := by
  cases h <;> simp [typeFields]

/-- The parentheses behind the name of the type are the first ones. -/
theorem parenthesised?_append (hT : '(' ∉ T.toList) {inner : List Char} (hinner : ')' ∉ inner) :
    parenthesised? (T.toList ++ '(' :: (inner ++ [')'])) = some inner := by
  have hopening : (T.toList ++ '(' :: (inner ++ [')'])).dropWhile (· != '(') = '(' :: (inner ++ [')']) := by
    rw [List.dropWhile_append_of_pos fun c hc => ?_, List.dropWhile_cons_of_neg (by simp)]
    exact bne_iff_ne.mpr fun h => hT (h ▸ hc)
  have hclosing : (inner ++ [')']).takeWhile (· != ')') = inner := by
    rw [List.takeWhile_append_of_pos fun c hc => ?_, List.takeWhile_cons_of_neg (by simp), List.append_nil]
    exact bne_iff_ne.mpr fun h => hinner (h ▸ hc)
  rw [parenthesised?, hopening]
  simp [hclosing]

section Behind

variable {ts : List String}

theorem behind_toList : (T ++ "(" ++ ",".intercalate ts ++ ")").toList =
    T.toList ++ '(' :: ([','].intercalate (ts.map String.toList) ++ [')']) := by
  have hinner : (",".intercalate ts).toList = [','].intercalate (ts.map String.toList) := by
    rw [String.toList_intercalate]
    rfl
  simp [hinner]

theorem notMem_numerals (h : List.Forall₂ Text.IsNumeral ts ns) {c : Char} (hblank : Text.isBlank c = false)
    (hdigit : c.isDigit = false) : ∀ t ∈ ts, c ∉ t.toList := by
  induction h with
  | nil => exact nofun
  | cons ht _ ih => exact List.forall_mem_cons.mpr ⟨ht.notMem hblank hdigit, ih⟩

theorem notMem_intercalate {c : Char} (hcomma : c ≠ ',') (h : ∀ t ∈ ts, c ∉ t.toList) :
    c ∉ [','].intercalate (ts.map String.toList) := by
  intro hmem
  rcases Text.mem_intercalate hmem with rfl | ⟨cs, hcs, hmem⟩
  · exact hcomma rfl
  · obtain ⟨t, ht, rfl⟩ := List.mem_map.mp hcs
    exact h t ht hmem

theorem suffixNumbers_behind (hT : '(' ∉ T.toList) (h : List.Forall₂ Text.IsNumeral ts ns) (hne : ns ≠ []) :
    suffixNumbers (typed column [("dataType", .text (T ++ "(" ++ ",".intercalate ts ++ ")"))]) =
      .ok (ns.map Int.ofNat) := by
  have hwritten : writtenType (typed column [("dataType", .text (T ++ "(" ++ ",".intercalate ts ++ ")"))]) =
      T ++ "(" ++ ",".intercalate ts ++ ")" := rfl
  have hclosing := notMem_intercalate (by decide) (notMem_numerals h (c := ')') (by decide) (by decide))
  have hparts : ([','].intercalate (ts.map String.toList)).splitOnP (· == ',') = ts.map String.toList := by
    have hts : ts.map String.toList ≠ [] := by
      cases h with
      | nil => exact (hne rfl).elim
      | cons => exact List.cons_ne_nil _ _
    have hcomma : ∀ cs ∈ ts.map String.toList, ',' ∉ cs :=
      List.forall_mem_map.mpr (notMem_numerals h (by decide) (by decide))
    rw [← List.splitOn_eq_splitOnP, List.splitOn_intercalate ',' hcomma hts]
  have hvalues : List.Forall₂ Value.Denotes (ts.map Value.text) ns :=
    List.forall₂_map_left_iff.mpr (h.imp fun _ _ ht => .text ht)
  rw [suffixNumbers, hwritten, behind_toList, parenthesised?_append hT hclosing]
  simp only [hparts, List.map_map]
  rw [← numbersOf_eq hvalues]
  exact congrArg numbersOf (List.map_congr_left fun t _ => by simp)

end Behind

theorem writtenNumbers_eq (hT : '(' ∉ T.toList) (h : WritesType T ns fields) :
    writtenNumbers (typed column fields) = .ok (ns.map Int.ofNat) := by
  have hread (hne : ns ≠ []) (hfield : fieldNumbers (typed column fields) = .ok (ns.map Int.ofNat)) :
      writtenNumbers (typed column fields) = .ok (ns.map Int.ofNat) := by
    rw [writtenNumbers, hfield]
    cases ns with
    | nil => exact (hne rfl).elim
    | cons n ns => rfl
  have hfieldOf {v : Value} {n : Nat} (hv : v.Denotes n)
      (hlength : innerField (typed column fields) "length" = v) : fieldNumbers (typed column fields) =
        ((innerField (typed column fields) "scale").toInt?).map fun s => (n : Int) :: s.toList := by
    rw [fieldNumbers_of_asList (by rw [hlength, hv.asList_eq]), hlength, hv.toInt?_eq]
  cases h with
  | plain =>
    have hopening : T.toList.dropWhile (· != '(') = [] :=
      List.dropWhile_eq_nil_iff.mpr fun c hc => bne_iff_ne.mpr fun h => hT (h ▸ hc)
    have hsuffix : suffixNumbers (typed column [("dataType", .text T)]) = .ok [] := by
      have hwritten : writtenType (typed column [("dataType", .text T)]) = T := rfl
      rw [suffixNumbers, hwritten, parenthesised?, hopening]
    exact hsuffix
  | @behind ts ns h hne hline =>
    have hfield : fieldNumbers (typed column [("dataType", .text (T ++ "(" ++ ",".intercalate ts ++ ")"))]) = .ok [] :=
      rfl
    rw [writtenNumbers, hfield]
    exact suffixNumbers_behind hT h hne
  | @length v n hv =>
    refine hread (List.cons_ne_nil _ _) ?_
    rw [hfieldOf hv (by cases hv <;> rfl)]
    rfl
  | lengths h hne =>
    refine hread hne ?_
    rw [fieldNumbers]
    exact numbersOf_eq h
  | @lengthAndScale v w n m hv hw =>
    refine hread (List.cons_ne_nil _ _) ?_
    have hscale : innerField (typed column [("dataType", .text T), ("length", v), ("scale", w)]) "scale" = w := by
      cases hw <;> rfl
    rw [hfieldOf hv (by cases hv <;> rfl), hscale, hw.toInt?_eq]
    rfl

theorem normalSpelling_eq (hT : '(' ∉ T.toList) (h : WritesType T ns fields) (column : Value) :
    ColumnType.normalSpelling (writtenType (typed column fields)) = ColumnType.normalSpelling T := by
  cases h with
  | @behind ts ns h hne hline =>
    have hwritten : writtenType (typed column [("dataType", .text (T ++ "(" ++ ",".intercalate ts ++ ")"))]) =
        T ++ "(" ++ ",".intercalate ts ++ ")" := rfl
    have hclosing := notMem_intercalate (by decide) (notMem_numerals h (c := ')') (by decide) (by decide))
    have hnewline := notMem_intercalate (by decide) hline
    have hdrop := ColumnType.dropParameters_append hT hclosing hnewline []
    rw [ColumnType.dropParameters, List.append_nil] at hdrop
    rw [hwritten, ColumnType.normalSpelling, behind_toList, ColumnType.normalChars_eq, hdrop,
      ColumnType.normalSpelling, ColumnType.normalChars_eq, ColumnType.dropParameters_eq_self hT]
  | plain => rfl
  | length => rfl
  | lengths => rfl
  | lengthAndScale => rfl

/-- The definition that is read depends on the name of the type and on its numbers only. -/
theorem ofValue?_eq (hT : '(' ∉ T.toList) (htype : ColumnType.normalSpelling T ≠ "") (h : WritesType T ns fields)
    (column : Value) :
    ofValue? (typed column fields) = .ok (column.nameText?.map fun name => ofType name (ColumnType.normalSpelling T)
      (typeNumbers (ColumnType.normalSpelling T) (ns.map Int.ofNat))) := by
  have hspelling := h.normalSpelling_eq hT column
  rw [ofValue?_typed h.mem_typeFields (by rwa [hspelling]) (h.writtenNumbers_eq hT), hspelling]

end WritesType

/-! ### The main result -/

/-- What the numbers of a type mean: two are precision and scale, and what a single one is depends on the type. -/
structure HasNumbers (e : ColumnDefinition) (ns : List Nat) : Prop where
  none : ns = [] → e.numbers = {}
  two : ∀ p s, ns = [p, s] → e.numbers = { precision := some (p : Int), scale := some (s : Int) }
  decimal : ∀ p, ns = [p] → ColumnType.ofSpelling e.typeName ∈ [.decimal, .numeric] →
    e.numbers = { precision := some (p : Int) }
  vector : ∀ p, ns = [p] → ColumnType.ofSpelling e.typeName ∈ [.vector, .halfvec, .sparsevec] →
    e.numbers = { dimension := some (p : Int) }
  other : ∀ p, ns = [p] → ColumnType.ofSpelling e.typeName ∉ [.decimal, .numeric, .vector, .halfvec, .sparsevec] →
    e.numbers = { length := some (p : Int) }

theorem typeNumbers_singleton (typeName : String) (n : Int) : typeNumbers typeName [n] =
    if (ColumnType.ofSpelling typeName).isDecimal then { precision := some n }
    else if (ColumnType.ofSpelling typeName).isVector then { dimension := some n }
    else { length := some n } := by
  rw [typeNumbers]

theorem hasNumbers_ofType (name typeName : String) (ns : List Nat) :
    HasNumbers (ofType name typeName (typeNumbers typeName (ns.map Int.ofNat))) ns := by
  have hdecimal (t : ColumnType) : t.isDecimal = true ↔ t ∈ [.decimal, .numeric] := by cases t <;> decide
  have hvector (t : ColumnType) : t.isVector = true ↔ t ∈ [.vector, .halfvec, .sparsevec] := by cases t <;> decide
  have hsingle (p : Nat) : [p].map Int.ofNat = [(p : Int)] := rfl
  constructor
  case none =>
    rintro rfl
    rfl
  case two =>
    rintro p s rfl
    rfl
  all_goals
    rintro p rfl ht
    rw [ofType] at ht ⊢
    dsimp only at ht ⊢
    rw [hsingle, typeNumbers_singleton]
    generalize ColumnType.ofSpelling typeName = t at ht ⊢
  case decimal => rw [if_pos ((hdecimal t).mpr ht)]
  case vector =>
    have hnot : t ∉ [.decimal, .numeric] := (by decide : ∀ t ∈ [.vector, .halfvec, .sparsevec], t ∉ _) t ht
    rw [if_neg ((hdecimal t).not.mpr hnot), if_pos ((hvector t).mpr ht)]
  case other =>
    have hnot : t ∉ [.decimal, .numeric] ++ [.vector, .halfvec, .sparsevec] := ht
    rw [List.mem_append, not_or, ← hdecimal, ← hvector] at hnot
    rw [if_neg hnot.1, if_neg hnot.2]

end ColumnDefinition

end SchemaDesk
