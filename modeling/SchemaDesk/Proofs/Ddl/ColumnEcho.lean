import SchemaDesk.Proofs.Ddl.WrittenLine
/-!
The columns that are read for written columns. One reading loses what the dialect has no words for, another
one loses nothing more.
-/

namespace SchemaDesk

open Ddl Sql

/-! ### Marks -/

namespace ColumnMarks

theorem join_assoc (a b c : ColumnMarks) : (a.join b).join c = a.join (b.join c) := by
  simp [join, Bool.or_assoc]

theorem foldl_join (m : ColumnMarks) (ms : List ColumnMarks) : ms.foldl join m = m.join (joinAll ms) := by
  induction ms generalizing m with
  | nil => simp [joinAll, join]
  | cons n ms ih =>
    rw [joinAll, List.foldl_cons, List.foldl_cons, ih, ih, Line.nothing_join, join_assoc]

theorem joinAll_cons (m : ColumnMarks) (ms : List ColumnMarks) : joinAll (m :: ms) = m.join (joinAll ms) := by
  rw [joinAll, List.foldl_cons, Line.nothing_join, foldl_join]

theorem joinAll_append (ms ns : List ColumnMarks) : joinAll (ms ++ ns) = (joinAll ms).join (joinAll ns) := by
  rw [joinAll, List.foldl_append, foldl_join]
  rfl

end ColumnMarks

namespace Ddl.Clause

theorem foldl_or {α β : Type} (f : α → Option β) (as : List α) (b : Option β) :
    as.foldl (fun b a => (f a).or b) b = (as.foldl (fun b a => (f a).or b) none).or b := by
  induction as generalizing b with
  | nil => rfl
  | cons a as ih => rw [List.foldl_cons, List.foldl_cons, ih, ih ((f a).or none), Option.or_none, Option.or_assoc]

theorem nullability_append (as bs : List Clause) :
    nullability (as ++ bs) = (nullability bs).or (nullability as) := by
  rw [nullability, List.foldl_append, foldl_or]
  rfl

theorem lastLiteral?_append (as bs : List Clause) :
    lastLiteral? (as ++ bs) = (lastLiteral? bs).or (lastLiteral? as) := by
  rw [lastLiteral?, List.foldl_append, foldl_or]
  rfl

end Ddl.Clause

/-- The literal for the absent value. -/
def Ddl.Literal.isNull : Literal → Bool
  | null => true
  | _ => false

namespace Column

variable {d : Dialect} {c : Column} {k : Bool}

/-! ### What the clauses say -/

theorem frontClauses_say (c : Column) (d : Dialect) (k : Bool) :
    Clause.nullability (c.frontClauses d k) =
      (if (!c.nullable && !c.primaryKey) || (c.primaryKey && k) then some false else none) ∧
    Clause.lastLiteral? (c.frontClauses d k) = none ∧
    ColumnMarks.joinAll ((c.frontClauses d k).map Clause.marks) =
      .join (if c.primaryKey && !k && !(d == .postgresql && c.type.isSerial) then .key else {})
        { autoIncrement := c.type.isSerial && (d == .mysql || (d == .sqlite && (c.primaryKey && !k))) } := by
  unfold frontClauses keyClauses countsBehindType
  cases d <;> cases c.type.isSerial <;> cases c.primaryKey <;> cases c.nullable <;> cases k <;> exact ⟨rfl, rfl, rfl⟩

theorem backClauses_say (d : Dialect) (unique : Bool) (x : Option Literal) :
    let lost := d == .mysql && unique && x.any Literal.isNull
    Clause.nullability (backClauses d unique x) = (if lost then some true else none) ∧
    Clause.lastLiteral? (backClauses d unique x) = (if lost then none else x) ∧
    ColumnMarks.joinAll ((backClauses d unique x).map Clause.marks) = { unique } := by
  obtain - | x := x
  · cases d <;> cases unique <;> exact ⟨rfl, rfl, rfl⟩
  · cases d <;> cases unique <;> cases x <;> exact ⟨rfl, rfl, rfl⟩

/-- MySQL loses a default behind `UNIQUE`, and takes a `NULL` for the clause that lets the column be null. -/
def losesDefault (c : Column) (d : Dialect) : Bool := d == .mysql && c.isUniqueAlone && c.default == some "NULL"

theorem any_isNull_literal? (h : c.HasSimpleDefault) :
    c.literal?.any Literal.isNull = (c.default == some "NULL") := by
  have hwritten := map_written_literal? h
  have hnull : c.default = some "NULL" ↔ c.default.filter (· != "") = some "NULL" := by
    simp [Option.filter_eq_some_iff]
  rw [Bool.eq_iff_iff, beq_iff_eq, hnull, ← hwritten]
  cases hx : c.literal? with
  | none => simp
  | some x =>
    rw [Option.any_some, Option.map_some, Option.some.injEq]
    constructor
    · intro h
      cases x <;> first | rfl | cases h
    · intro h
      rw [Literal.eq_null_of_written h (isValid_literal? x hx)]
      rfl

/-! ### Reading a column -/

/-- The column is marked as a key in a line of its own. -/
def isKeyListed (c : Column) (d : Dialect) (k : Bool) : Bool :=
  c.primaryKey && (k || (d == .postgresql && c.type.isSerial))

/-- The column that is read for a column. -/
def echo (c : Column) (d : Dialect) (k : Bool) : Column :=
  let numbers := ColumnDefinition.typeNumbers (c.typeWords d).name (c.typeWords d).numbers
  { id := .fresh 0
    name := c.name
    type := c.type.echo d (c.type.saysCounts d (c.primaryKey && !k))
    primaryKey := c.primaryKey
    nullable := !c.primaryKey && !(d == .postgresql && c.type.isSerial) && (c.nullable || c.losesDefault d)
    unique := c.unique || c.primaryKey
    default := if c.losesDefault d then none else c.default.filter (· != "")
    length := numbers.length
    precision := numbers.precision
    scale := numbers.scale
    dimension := numbers.dimension }

theorem marks_writtenClauses (h : c.HasSimpleDefault) :
    Line.marks (c.typeWords d).name (c.writtenClauses d k) =
      { primaryKey := c.primaryKey && !c.isKeyListed d k
        notNull := (c.primaryKey && !c.isKeyListed d k) || (d == .postgresql && c.type.isSerial) ||
          (((!c.nullable && !c.primaryKey) || (c.primaryKey && k)) && !c.losesDefault d)
        unique := (c.primaryKey && !c.isKeyListed d k) || (c.unique && !c.primaryKey)
        autoIncrement := c.type.saysCounts d (c.primaryKey && !k) } := by
  obtain ⟨hfrontNull, -, hfrontMarks⟩ := c.frontClauses_say d k
  obtain ⟨hbackNull, -, hbackMarks⟩ := backClauses_say d c.isUniqueAlone c.literal?
  have hserial : Text.hasWord (c.typeWords d).name "SERIAL" = (d == .postgresql && c.type.isSerial) :=
    c.type.hasWord_serial d
  rw [any_isNull_literal? h] at hbackNull
  rw [Line.marks, hserial, ColumnMarks.joinAll_cons, ColumnMarks.joinAll_cons, writtenClauses, List.map_append,
    ColumnMarks.joinAll_append, hfrontMarks, hbackMarks, Clause.nullability_append, hbackNull, hfrontNull]
  unfold isKeyListed losesDefault isUniqueAlone ColumnType.saysCounts
  cases d <;> cases c.type.isSerial <;> cases c.primaryKey <;> cases c.nullable <;> cases c.unique <;> cases k <;>
    cases (c.default == some "NULL") <;> rfl

theorem lastLiteral?_writtenClauses (h : c.HasSimpleDefault) :
    (Clause.lastLiteral? (c.writtenClauses d k)).map Literal.written =
      if c.losesDefault d then none else c.default.filter (· != "") := by
  rw [writtenClauses, Clause.lastLiteral?_append, (c.frontClauses_say d k).2.1, Option.or_none,
    (backClauses_say d c.isUniqueAlone c.literal?).2.1, any_isNull_literal? h, losesDefault]
  split
  · rfl
  · exact map_written_literal? h

theorem column_definition (h : c.HasSimpleDefault) :
    (if c.isKeyListed d k then Extraction.markKey else fun b => b)
      (Extraction.column 0 (Line.definition c.name (c.typeWords d) (c.writtenClauses d k))) = c.echo d k := by
  have hspelling : ColumnType.ofSpelling (c.typeWords d).name = c.type.readAs d := c.type.ofSpelling_words d
  rw [Line.definition, Extraction.column, Extraction.columnType, marks_writtenClauses h, lastLiteral?_writtenClauses h, hspelling, echo,
    ColumnType.echo]
  unfold isKeyListed Extraction.markKey losesDefault isUniqueAlone
  cases d <;> cases c.type.isSerial <;> cases c.primaryKey <;> cases c.nullable <;> cases c.unique <;> cases k <;>
    cases (c.default == some "NULL") <;> rfl

/-! ### Reading a column again -/

theorem hasSimpleDefault_echo (h : c.HasSimpleDefault) : (c.echo d k).HasSimpleDefault := by
  intro s hs
  rw [echo] at hs
  dsimp only at hs
  split at hs
  · cases hs
  · exact h s (Option.filter_eq_some_iff.mp hs).1

theorem filter_beq_null (s : Option String) : (s.filter (· != "") == some "NULL") = (s == some "NULL") := by
  rw [Bool.eq_iff_iff, beq_iff_eq, beq_iff_eq, Option.filter_eq_some_iff]
  simp

/-- What MySQL loses is not there any more. -/
theorem losesDefault_echo (c : Column) (d : Dialect) (k : Bool) : (c.echo d k).losesDefault d = false := by
  unfold echo losesDefault isUniqueAlone
  dsimp only
  split
  · simp
  · next h =>
    rw [filter_beq_null]
    revert h
    generalize (d == Dialect.mysql) = mysql
    generalize (c.default == some "NULL") = null
    cases mysql <;> cases c.primaryKey <;> cases c.unique <;> cases null <;> simp

theorem filter_default_echo (c : Column) (d : Dialect) (k : Bool) :
    (c.echo d k).default.filter (· != "") = (c.echo d k).default := by
  show (if c.losesDefault d then none else _ : Option String).filter _ = if c.losesDefault d then none else _
  split
  · rfl
  · simp [Option.filter_filter]

theorem literal?_echo (c : Column) (d : Dialect) (k : Bool) :
    (c.echo d k).literal? = if c.losesDefault d then none else c.literal? := by
  rw [literal?, filter_default_echo]
  show (if c.losesDefault d then none else _ : Option String).map _ = _
  split <;> rfl

/-- A column that was read stays as it is when it is read again, but for its type and its numbers. -/
theorem echo_echo (c : Column) (d : Dialect) (k : Bool) :
    let b := c.echo d k
    let b' := b.echo d k
    b'.primaryKey = b.primaryKey ∧ b'.nullable = b.nullable ∧ b'.unique = b.unique ∧ b'.default = b.default := by
  have hlost := c.losesDefault_echo d k
  refine ⟨rfl, ?_, ?_, ?_⟩
  · rw [echo]
    dsimp only
    rw [hlost, echo]
    dsimp only
    cases d with
    | postgresql =>
      rw [ColumnType.echo_postgresql]
      cases c.type.isSerial <;> cases c.primaryKey <;> simp
    | mysql | sqlite => cases c.primaryKey <;> simp
  · rw [echo, echo]
    cases c.unique <;> cases c.primaryKey <;> rfl
  · rw [echo]
    dsimp only
    rw [hlost, if_neg (by simp), filter_default_echo]

/-- The text of a line depends on these parts of a column. -/
theorem line_congr {b c : Column} (hname : b.name = c.name) (htype : b.typeText d = c.typeText d)
    (hserial : b.type.isSerial = c.type.isSerial) (hkey : b.primaryKey = c.primaryKey)
    (hnullable : b.nullable = c.nullable) (hunique : b.unique = c.unique) (hdefault : b.default = c.default) :
    b.line d k = c.line d k := by
  simp only [line, clauses, keyClause, hname, htype, hserial, hkey, hnullable, hunique, hdefault]

/-- A column that was read is written as it is when it was read again. -/
theorem line_echo_echo (c : Column) (d : Dialect) (k : Bool) :
    ((c.echo d k).echo d k).line d k = (c.echo d k).line d k := by
  obtain ⟨hkey, hnullable, hunique, hdefault⟩ := c.echo_echo d k
  obtain ⟨hwords, hserial⟩ : ((c.echo d k).echo d k).type.words d = (c.echo d k).type.words d ∧
      ((c.echo d k).echo d k).type.isSerial = (c.echo d k).type.isSerial :=
    c.type.words_echo_echo d (c.primaryKey && !k)
  have hform : (ColumnType.ofSpelling ((c.echo d k).type.words d).1).FormFits ((c.echo d k).type.words d).2 := by
    rw [ColumnType.ofSpelling_words]
    exact (c.echo d k).type.formFits_words d
  have hnumbers : ((c.echo d k).type.words d).2.numbers ((c.echo d k).echo d k) =
      ((c.echo d k).type.words d).2.numbers (c.echo d k) :=
    NumberForm.numbers_typeNumbers hform (c.echo d k) rfl rfl rfl rfl rfl
  refine line_congr rfl ?_ hserial hkey hnullable hunique hdefault
  rw [typeText_eq, typeText_eq, countsBehindType, countsBehindType, hserial, hwords, hnumbers]

/-! ### Numbers -/

/-- No parameter of the type is negative. -/
def HasNonnegativeNumbers (c : Column) : Prop :=
  ∀ n : Int, some n ∈ [c.length, c.precision, c.scale, c.dimension] → 0 ≤ n

end Column

namespace NumberForm

/-- The numbers that stand for absent ones. -/
def defaults : NumberForm → List Int
  | none | dimension => []
  | decimal => [10, 2]
  | length n => [n]
  | fixed ns => ns

theorem mem_numbers {f : NumberForm} {c : Column} {n : Int} (h : n ∈ f.numbers c) :
    some n ∈ [c.length, c.precision, c.scale, c.dimension] ∨ n ∈ f.defaults := by
  cases f with
  | none => cases h
  | fixed ns => exact Or.inr h
  | decimal =>
    cases hprecision : c.precision <;> cases hscale : c.scale <;>
      simp [numbers, hprecision, hscale, defaults] at h ⊢ <;> tauto
  | length m =>
    rw [numbers, List.mem_singleton] at h
    subst h
    unfold positiveOr
    split
    · exact Or.inr (by simp [defaults])
    · next hlength =>
      split
      · exact Or.inr (by simp [defaults])
      · exact Or.inl (by simp [hlength])
  | dimension =>
    rw [numbers, List.mem_filter, Option.mem_toList] at h
    simp [← Option.mem_def.mp h.1]

end NumberForm

namespace Column

variable {d : Dialect} {c : Column} {k : Bool}

theorem nonneg_typeWords (h : c.HasNonnegativeNumbers) : ∀ n ∈ (c.typeWords d).numbers, 0 ≤ n := by
  have hdefaults : ∀ t : ColumnType, ∀ n ∈ (t.words d).2.defaults, 0 ≤ n :=
    ColumnType.forall_of_all (by cases d <;> decide)
  intro n hn
  rcases NumberForm.mem_numbers hn with hn | hn
  · exact h n hn
  · exact hdefaults c.type n hn

theorem mem_of_typeNumbers {name : String} {ns : List Int} {n : Int}
    (h : some n ∈ [(ColumnDefinition.typeNumbers name ns).length, (ColumnDefinition.typeNumbers name ns).precision,
      (ColumnDefinition.typeNumbers name ns).scale, (ColumnDefinition.typeNumbers name ns).dimension]) : n ∈ ns := by
  obtain - | ⟨m, - | ⟨l, ns⟩⟩ := ns
  · simp [ColumnDefinition.typeNumbers] at h
  · have hcases : ColumnDefinition.typeNumbers name [m] = { precision := some m } ∨
        ColumnDefinition.typeNumbers name [m] = { dimension := some m } ∨
        ColumnDefinition.typeNumbers name [m] = { length := some m } := by
      simp only [ColumnDefinition.typeNumbers]
      split
      · exact Or.inl rfl
      · split
        · exact Or.inr (Or.inl rfl)
        · exact Or.inr (Or.inr rfl)
    rcases hcases with hm | hm | hm <;> simpa [hm] using h
  · simp only [ColumnDefinition.typeNumbers, List.mem_cons, Option.some.injEq, List.not_mem_nil, or_false, reduceCtorEq,
      false_or] at h
    rcases h with rfl | rfl <;> simp

/-- A column that was read from a line without negative numbers has none. -/
theorem hasNonnegativeNumbers_echo (h : ∀ n ∈ (c.typeWords d).numbers, 0 ≤ n) :
    (c.echo d k).HasNonnegativeNumbers := fun n hn => h n (mem_of_typeNumbers hn)

/-- A column that was read is read again. -/
theorem isReadable_echo (h : c.IsReadable d) : (c.echo d k).IsReadable d := by
  refine ⟨nonneg_typeWords (hasNonnegativeNumbers_echo h.1), fun hd hunique x hx => ?_⟩
  have hcolumn : c.isUniqueAlone = true := by
    rw [isUniqueAlone, echo] at hunique
    rw [isUniqueAlone]
    cases hu : c.unique <;> cases hp : c.primaryKey <;> simp_all
  rw [literal?_echo] at hx
  split at hx
  · cases hx
  · exact h.2 hd hcolumn x hx

/-! ### Exact columns -/

/-- The parameters that PostgreSQL writes for the type are there, and no others. -/
def HasExactNumbers (c : Column) : Prop :=
  match c.type with
  | .char | .varchar | .bit =>
    (∃ n ∈ c.length, 1 ≤ n) ∧ c.precision = none ∧ c.scale = none ∧ c.dimension = none
  | .decimal | .numeric =>
    c.length = none ∧ (∃ n ∈ c.precision, 0 ≤ n) ∧ (∃ n ∈ c.scale, 0 ≤ n) ∧ c.dimension = none
  | _ => c.length = none ∧ c.precision = none ∧ c.scale = none ∧ c.dimension = none

/-- A column of which PostgreSQL loses nothing. -/
structure IsExact (c : Column) : Prop where
  key : c.primaryKey = true → c.nullable = false ∧ c.unique = true
  serial : c.type.isSerial = true → c.nullable = false
  type : c.type ∉ [.varbit, .vector, .halfvec, .sparsevec]
  numbers : c.HasExactNumbers
  default : c.default ≠ some ""

theorem typeNumbers_of_isExact (h : c.IsExact) :
    ColumnDefinition.typeNumbers (c.typeWords .postgresql).name (c.typeWords .postgresql).numbers =
      { length := c.length, precision := c.precision, scale := c.scale, dimension := c.dimension } ∧
    ∀ n ∈ (c.typeWords .postgresql).numbers, 0 ≤ n := by
  obtain ⟨-, -, htype, hnumbers, -⟩ := h
  obtain ⟨id, name, type, primaryKey, nullable, unique, default, length, precision, scale, dimension⟩ := c
  have hlength {n m : Int} (hn : 1 ≤ n) : positiveOr (some n) m = n := positiveOr_some (by omega) m
  cases type with
  | char | varchar | bit =>
    obtain ⟨⟨n, rfl, hn⟩, rfl, rfl, rfl⟩ := hnumbers
    refine ⟨?_, by simp [typeWords, ColumnType.words, NumberForm.numbers, hlength hn]; omega⟩
    simp only [typeWords, ColumnType.words, NumberForm.numbers, hlength hn]
    rfl
  | decimal | numeric =>
    obtain ⟨rfl, ⟨n, rfl, hn⟩, ⟨m, rfl, hm⟩, rfl⟩ := hnumbers
    exact ⟨rfl, by simp [typeWords, ColumnType.words, NumberForm.numbers, hn, hm]⟩
  | varbit | vector | halfvec | sparsevec => exact (htype (by simp)).elim
  | _ =>
    obtain ⟨rfl, rfl, rfl, rfl⟩ := hnumbers
    exact ⟨rfl, List.forall_mem_nil _⟩

theorem echo_of_isExact (h : c.IsExact) : c.echo .postgresql k = { c with id := .fresh 0 } := by
  have hnumbers := (typeNumbers_of_isExact h).1
  have hlost : c.losesDefault .postgresql = false := rfl
  have hdefault : c.default.filter (· != "") = c.default := by
    cases hc : c.default with
    | none => rfl
    | some s =>
      have hs : s ≠ "" := fun hs => h.default (hs ▸ hc)
      simp [hs]
  have hkey := h.key
  have hserial := h.serial
  rw [echo, hnumbers, hlost, hdefault, ColumnType.echo_postgresql]
  cases hk : c.primaryKey <;> cases hs : c.type.isSerial <;> simp_all

end Column

end SchemaDesk
