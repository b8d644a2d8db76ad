import SchemaDesk.Proofs.Ddl.ColumnEcho
import SchemaDesk.Proofs.Definition.Numbers
/-!
Types that are written and read again, by themselves and not within a script. PostgreSQL gives every type back with its
numbers; in the other dialects a type is read as one that is from then on kept.
-/

namespace SchemaDesk

open ColumnDefinition

theorem NumberForm.exists_mem_counts (f : NumberForm) : ∃ n, n ∈ f.counts := by
  cases f <;> simp [counts]

namespace ColumnType

/-- The name in the text of a type: its word, in MySQL with the word for a column that counts up. -/
def writtenName (t : ColumnType) (d : Dialect) : String :=
  (t.words d).1 ++ if d == .mysql && t.isSerial then " AUTO_INCREMENT" else ""

/-- The type that this name is read as. -/
def reread (t : ColumnType) (d : Dialect) : ColumnType := if d == .mysql && t.isSerial then t else t.readAs d

theorem reread_reread (t : ColumnType) (d : Dialect) : (t.reread d).reread d = t.reread d := by
  cases d <;> cases t <;> rfl

theorem writtenName_known (t : ColumnType) (d : Dialect) : normalSpelling (t.writtenName d) = t.writtenName d ∧
    t.writtenName d ≠ "" ∧ '(' ∉ (t.writtenName d).toList ∧ ofSpelling (t.writtenName d) = t.reread d := by
  by_cases hcounts : (d == .mysql && t.isSerial) = true
  · rw [Bool.and_eq_true, beq_iff_eq] at hcounts
    obtain ⟨rfl, hserial⟩ := hcounts
    cases t <;> first | exact absurd hserial (by decide) | decide +kernel
  · have hname : t.writtenName d = (t.words d).1 := by rw [writtenName, if_neg hcounts, String.append_empty]
    obtain ⟨n, hn⟩ := (t.words d).2.exists_mem_counts
    have hword : Ddl.TypeWords.IsWord d (t.words d).1 := ⟨_, n, t.words_known d n hn⟩
    rw [hname, reread, if_neg hcounts]
    exact ⟨Ddl.Line.normalSpelling_word hword, hword.written.1, Ddl.Line.opening_notMem_word hword, t.ofSpelling_words d⟩

end ColumnType

namespace Column

variable {c : Column} {d : Dialect}

theorem numbersText_eq (n : Int) (ns : List Int) :
    numbersText (n :: ns) = "(" ++ ",".intercalate ((n :: ns).map Text.intText) ++ ")" := by
  rw [List.map_cons, ← String.toList_inj, String.toList_append, String.toList_append, toList_intercalate_cons]
  simp [numbersText, List.flatMap_map]

theorem intText_of_nonneg {n : Int} (hn : 0 ≤ n) : Text.intText n = Text.natText n.toNat := by
  have habs : n.natAbs = n.toNat := by omega
  rw [Text.intText, if_neg (Int.not_lt.mpr hn), habs]

/-- A column that counts up has a type without numbers. -/
theorem countsBehindType_eq_false (h : (c.type.words d).2.numbers c ≠ []) : c.countsBehindType d = false := by
  refine Bool.eq_false_iff.mpr fun hcounts => h ?_
  rw [countsBehindType, Bool.and_eq_true, beq_iff_eq] at hcounts
  obtain ⟨rfl, hserial⟩ := hcounts
  cases htype : c.type <;> rw [htype] at hserial <;> first | exact absurd hserial (by decide) | rfl

/-- The text of a type has its name and its numbers. -/
theorem writesType_typeText (h : c.HasNonnegativeNumbers) (d : Dialect) :
    WritesType (c.type.writtenName d) ((c.typeWords d).numbers.map Int.toNat) [("dataType", .text (c.typeText d))] := by
  have hnonneg : ∀ n ∈ (c.type.words d).2.numbers c, 0 ≤ n := nonneg_typeWords h
  rw [typeText_eq, typeWords]
  cases hns : (c.type.words d).2.numbers c with
  | nil =>
    rw [numbersText, String.append_empty]
    exact .plain
  | cons n ns =>
    have hcounts := countsBehindType_eq_false (hns ▸ List.cons_ne_nil n ns)
    have hname : c.type.writtenName d = (c.type.words d).1 := by
      rw [countsBehindType] at hcounts
      rw [ColumnType.writtenName, hcounts, if_neg Bool.false_ne_true, String.append_empty]
    rw [hns] at hnonneg
    have htext {m : Int} (hm : m ∈ n :: ns) : Text.intText m = Text.natText m.toNat :=
      intText_of_nonneg (hnonneg m hm)
    have hnumerals : List.Forall₂ Text.IsNumeral ((n :: ns).map Text.intText) ((n :: ns).map Int.toNat) := by
      rw [List.forall₂_map_left_iff, List.forall₂_map_right_iff, List.forall₂_same]
      exact fun m hm => htext hm ▸ Text.isNumeral_natText m.toNat
    have hline : ∀ t ∈ (n :: ns).map Text.intText, '\n' ∉ t.toList := by
      refine List.forall_mem_map.mpr fun m hm => ?_
      rw [htext hm, Text.natText, String.toList_ofList]
      exact Ddl.TypeWords.notMem_toDigits (by decide) _
    rw [hcounts, if_neg Bool.false_ne_true, String.append_empty, numbersText_eq, hname, ← String.append_assoc,
      ← String.append_assoc]
    exact .behind hnumerals (List.cons_ne_nil _ _) hline

/-- What is read for the text of a type. -/
theorem ofValue?_typeText (h : c.HasNonnegativeNumbers) (d : Dialect) (column : Value) :
    ofValue? (typed column [("dataType", .text (c.typeText d))]) = .ok (column.nameText?.map fun name =>
      ofType name (c.type.writtenName d) (typeNumbers (c.type.writtenName d) (c.typeWords d).numbers)) := by
  obtain ⟨hnormal, hne, hopening, -⟩ := c.type.writtenName_known d
  have hnumbers : ((c.typeWords d).numbers.map Int.toNat).map Int.ofNat = (c.typeWords d).numbers := by
    rw [List.map_map]
    exact (List.map_congr_left fun n hn => Int.toNat_of_nonneg (nonneg_typeWords h n hn)).trans (List.map_id' _)
  have hread := (writesType_typeText h d).ofValue?_eq hopening (by rwa [hnormal]) column
  rwa [hnormal, hnumbers] at hread

/-! ### Reading by itself -/

/-- Under any name, a description of a column with nothing but the text of the type is read as one of that type and with
these numbers. -/
def IsReadAs (c : Column) (d : Dialect) (t : ColumnType) (numbers : TypeNumbers) : Prop :=
  ∀ column name, column.nameText? = some name →
    ∃ e, ofValue? (typed column [("dataType", .text (c.typeText d))]) = .ok (some e) ∧ e.name = name ∧
      ColumnType.ofSpelling e.typeName = t ∧ e.numbers = numbers

theorem isReadAs (h : c.HasNonnegativeNumbers) (d : Dialect) : c.IsReadAs d (c.type.reread d)
    (typeNumbers (c.type.writtenName d) (c.typeWords d).numbers) := by
  intro column name hname
  rw [ofValue?_typeText h, hname]
  exact ⟨_, rfl, rfl, (c.type.writtenName_known d).2.2.2, rfl⟩

/-- The numbers that belong to the type of the column, with those that stand for absent ones. -/
def statedNumbers (c : Column) : TypeNumbers :=
  match c.type with
  | .decimal | .numeric => { precision := some (c.precision.getD 10), scale := some (c.scale.getD 2) }
  | .char | .bit => { length := some ((c.length.filter (0 < ·)).getD 1) }
  | .varchar => { length := some ((c.length.filter (0 < ·)).getD 255) }
  | .varbit => { length := some ((c.length.filter (0 < ·)).getD 64) }
  | .vector | .halfvec | .sparsevec => { dimension := c.dimension.filter (0 < ·) }
  | _ => {}

theorem filter_positive {n : Int} (hn : 0 ≤ n) : (some n).filter (0 < ·) = if n == 0 then none else some n := by
  by_cases hzero : n = 0
  · rw [hzero]
    rfl
  · have hpositive : 0 < n := by omega
    rw [Option.filter_some, if_pos (decide_eq_true hpositive), if_neg (by simpa using hzero)]

theorem positiveOr_eq {n : Option Int} (hn : ∀ k ∈ n, 0 ≤ k) (default : Int) :
    positiveOr n default = (n.filter (0 < ·)).getD default := by
  cases n with
  | none => rfl
  | some k =>
    rw [filter_positive (hn k rfl), positiveOr]
    cases k == 0 <;> rfl

/-- Only a positive dimension is written. -/
theorem typeNumbers_dimension (hc : ∀ n ∈ c.dimension, 0 ≤ n) {name : String}
    (hdecimal : (ColumnType.ofSpelling name).isDecimal = false) (hvector : (ColumnType.ofSpelling name).isVector = true) :
    typeNumbers name (NumberForm.dimension.numbers c) = { dimension := c.dimension.filter (0 < ·) } := by
  rw [NumberForm.numbers]
  cases hdimension : c.dimension with
  | none => rfl
  | some n =>
    rw [filter_positive (hc n hdimension)]
    by_cases hzero : n = 0
    · rw [hzero]
      rfl
    · have hone : (some n).toList.filter (· != 0) = [n] := by simp [hzero]
      have hnot : (n == 0) = false := beq_eq_false_iff_ne.mpr hzero
      rw [hone, typeNumbers_singleton, hdecimal, hvector, hnot]
      rfl

theorem typeNumbers_postgresql (h : c.HasNonnegativeNumbers) :
    typeNumbers (c.type.writtenName .postgresql) (c.typeWords .postgresql).numbers = c.statedNumbers := by
  have htype : ColumnType.ofSpelling (c.type.writtenName .postgresql) = c.type :=
    (c.type.writtenName_known .postgresql).2.2.2
  have hlength := @positiveOr_eq c.length fun k hk => h k (by simp [Option.mem_def.mp hk])
  have hdimension : ∀ k ∈ c.dimension, 0 ≤ k := fun k hk => h k (by simp [Option.mem_def.mp hk])
  have hnumbers : (c.typeWords .postgresql).numbers = (c.type.words .postgresql).2.numbers c := rfl
  rw [hnumbers, statedNumbers]
  generalize c.type.writtenName .postgresql = name at htype ⊢
  cases hc : c.type <;> rw [hc] at htype
  case decimal | numeric => rfl
  case char | varchar | bit | varbit =>
    refine (typeNumbers_singleton name _).trans ?_
    rw [htype, hlength]
    rfl
  case vector | halfvec | sparsevec =>
    exact typeNumbers_dimension hdimension (by rw [htype]; rfl) (by rw [htype]; rfl)
  all_goals rfl

/-- The column with another type and other numbers. -/
def retyped (c : Column) (t : ColumnType) (numbers : TypeNumbers) : Column :=
  { c with
    type := t
    length := numbers.length
    precision := numbers.precision
    scale := numbers.scale
    dimension := numbers.dimension }

end Column

end SchemaDesk
