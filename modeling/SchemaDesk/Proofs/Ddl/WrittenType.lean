import SchemaDesk.Ddl.TypeText
import SchemaDesk.Definition.Column
import SchemaDesk.Extraction
import SchemaDesk.Proofs.Ddl.Type
/-!
The types of columns in the words that a dialect has for them, and the types that these words stand for.
-/

namespace SchemaDesk

open Ddl Sql

/-- Which numbers of a column belong to a type in a script. -/
inductive NumberForm
  | none
  | decimal
  | length (default : Int)
  | dimension
  | fixed (numbers : List Int)
  deriving DecidableEq

namespace NumberForm

def numbers (c : Column) : NumberForm → List Int
  | none => []
  | decimal => [c.precision.getD 10, c.scale.getD 2]
  | length n => [positiveOr c.length n]
  | dimension => c.dimension.toList.filter (· != 0)
  | fixed ns => ns

/-- How many numbers there can be. -/
def counts : NumberForm → List Nat
  | none => [0]
  | decimal => [2]
  | length _ => [1]
  | dimension => [0, 1]
  | fixed ns => [ns.length]

theorem length_numbers (c : Column) (f : NumberForm) : (f.numbers c).length ∈ f.counts := by
  cases f with
  | none | decimal | length n | fixed ns => simp [numbers, counts]
  | dimension =>
    cases hdimension : c.dimension with
    | none => simp [numbers, counts, hdimension]
    | some n => by_cases hn : n = 0 <;> simp [numbers, counts, hdimension, hn]

end NumberForm

namespace ColumnType

/-- The word for a type, and the form of its numbers. -/
def words (t : ColumnType) : Dialect → String × NumberForm
  | .postgresql =>
    match t with
    | .decimal | .numeric => (t.name, .decimal)
    | .char | .bit => (t.name, .length 1)
    | .varchar => (t.name, .length 255)
    | .varbit => (t.name, .length 64)
    | .vector | .halfvec | .sparsevec => (t.name, .dimension)
    | t => (t.name, .none)
  | .mysql =>
    match t with
    | .decimal | .numeric => (t.name, .decimal)
    | .real => ("FLOAT", .none)
    | .doublePrecision => ("DOUBLE", .none)
    | .money => ("DECIMAL", .fixed [19, 4])
    | .smallserial => ("SMALLINT", .none)
    | .serial => ("INT", .none)
    | .bigserial => ("BIGINT", .none)
    | .char | .bit => (t.name, .length 1)
    | .varchar => (t.name, .length 255)
    | .varbit => ("BIT", .length 64)
    | .bytea => ("BLOB", .none)
    | .timetz => ("TIME", .none)
    | .timestamptz => ("TIMESTAMP", .none)
    | .interval => ("VARCHAR", .fixed [255])
    | .boolean => ("TINYINT", .fixed [1])
    | .point | .line | .lseg | .box | .path | .polygon | .circle | .tsvector | .tsquery | .xml => ("TEXT", .none)
    | .cidr | .inet => ("VARCHAR", .fixed [45])
    | .macaddr => ("VARCHAR", .fixed [17])
    | .macaddr8 => ("VARCHAR", .fixed [23])
    | .jsonb | .vector | .halfvec | .sparsevec => ("JSON", .none)
    | .uuid => ("CHAR", .fixed [36])
    | t => (t.name, .none)
  | .sqlite => (t.affinity, .none)

/-- The kind of the token of a word. -/
def wordKind (d : Dialect) (name : String) : TokenKind :=
  (((TypeWords.forms d).find? fun f => f.2.1 == name).map (·.1)).getD .word

theorem mem_all (t : ColumnType) : t ∈ all := by
  cases t <;> decide

/-- What holds of all types can be tried out. -/
theorem forall_of_all {p : ColumnType → Prop} (h : ∀ t ∈ all, p t) (t : ColumnType) : p t := h t (mem_all t)

theorem words_known (t : ColumnType) (d : Dialect) : ∀ n ∈ (t.words d).2.counts,
    (wordKind d (t.words d).1, (t.words d).1, n) ∈ TypeWords.forms d := by
  revert t
  exact forall_of_all (by cases d <;> decide +kernel)

/-- Only PostgreSQL has types that count up by their names. -/
theorem hasWord_serial (t : ColumnType) (d : Dialect) :
    Text.hasWord (t.words d).1 "SERIAL" = (d == .postgresql && t.isSerial) := by
  revert t
  exact forall_of_all (by cases d <;> decide +kernel)

/-- The type that the word of a type is read as. -/
def readAs (t : ColumnType) : Dialect → ColumnType
  | .postgresql => t
  | .mysql =>
    match t with
    | .real => .float
    | .money => .decimal
    | .smallserial => .smallint
    | .serial => .int
    | .bigserial => .bigint
    | .timetz => .time
    | .timestamptz => .timestamp
    | .boolean => .int
    | .point | .line | .lseg | .box | .path | .polygon | .circle | .tsvector | .tsquery | .xml => .text
    | .interval | .cidr | .inet | .macaddr | .macaddr8 => .varchar
    | .varbit => .bit
    | .jsonb | .vector | .halfvec | .sparsevec => .json
    | .uuid => .char
    | t => t
  | .sqlite =>
    match t with
    | .smallint | .int | .integer | .bigint | .smallserial | .serial | .bigserial | .boolean => .integer
    | .decimal | .numeric | .real | .doublePrecision | .float | .money => .real
    | .bytea => .bytea
    | _ => .text

theorem ofSpelling_words (t : ColumnType) (d : Dialect) : ofSpelling (t.words d).1 = t.readAs d := by
  revert t
  exact forall_of_all (by cases d <;> decide +kernel)

/-- The type that is read for the word of a type. `counts` tells whether it is said to count up. -/
def echo (t : ColumnType) (d : Dialect) (counts : Bool) : ColumnType :=
  if counts then (t.readAs d).serialOf?.getD (t.readAs d) else t.readAs d

/-- The column is said to count up. SQLite says so only of the one column of a key. -/
def saysCounts (t : ColumnType) (d : Dialect) (sole : Bool) : Bool := t.isSerial && (d != .sqlite || sole)

/-- PostgreSQL loses nothing. -/
theorem echo_postgresql (t : ColumnType) (sole : Bool) :
    t.echo .postgresql (t.saysCounts .postgresql sole) = t := by
  cases t <;> rfl

/-- What is lost is lost at once: a type that was read is written in the words in which it is written when
it was read again. -/
theorem words_echo_echo (t : ColumnType) (d : Dialect) (sole : Bool) :
    let t' := t.echo d (t.saysCounts d sole)
    let t'' := t'.echo d (t'.saysCounts d sole)
    t''.words d = t'.words d ∧ t''.isSerial = t'.isSerial := by
  cases d <;> cases sole <;> cases t <;> exact ⟨rfl, rfl⟩

/-- The numbers behind a word are read as what they were written for. -/
def FormFits (t : ColumnType) : NumberForm → Prop
  | .length n => n ≠ 0 ∧ t.isDecimal = false ∧ t.isVector = false
  | .dimension => t.isDecimal = false ∧ t.isVector = true
  | _ => True

instance (t : ColumnType) (f : NumberForm) : Decidable (t.FormFits f) := by
  cases f <;> unfold FormFits <;> infer_instance

theorem formFits_words (t : ColumnType) (d : Dialect) : (t.readAs d).FormFits (t.words d).2 := by
  revert t
  exact forall_of_all (by cases d <;> decide +kernel)

end ColumnType

namespace Column

variable {d : Dialect}

/-- The type as it stands in a script. -/
def typeWords (c : Column) (d : Dialect) : TypeWords :=
  { kind := ColumnType.wordKind d (c.type.words d).1
    name := (c.type.words d).1
    numbers := (c.type.words d).2.numbers c }

theorem isKnown_typeWords (c : Column) (d : Dialect) : (c.typeWords d).IsKnown d :=
  c.type.words_known d _ (NumberForm.length_numbers c _)

/-- In MySQL, the word for a column that counts up stands behind its type. -/
def countsBehindType (c : Column) (d : Dialect) : Bool := d == .mysql && c.type.isSerial

/-- Numbers between parentheses, or nothing if there are none. -/
def numbersText : List Int → String
  | [] => ""
  | n :: ns => "(" ++ Text.intText n ++ String.join (ns.map fun m => "," ++ Text.intText m) ++ ")"

theorem withNumber_eq (name : String) (n : Int) : withNumber name n = name ++ numbersText [n] := by
  refine String.toList_inj.mp ?_
  simp [withNumber, numbersText]

theorem decimalText_eq (c : Column) :
    c.decimalText = c.type.name ++ numbersText (NumberForm.decimal.numbers c) := by
  refine String.toList_inj.mp ?_
  simp [decimalText, numbersText, NumberForm.numbers]

theorem dimensionText_eq (c : Column) (name : String) :
    (match c.dimension with
      | none => name
      | some n => if n == 0 then name else withNumber name n) =
        name ++ numbersText (NumberForm.dimension.numbers c) := by
  cases hdimension : c.dimension with
  | none => simp [NumberForm.numbers, hdimension, numbersText]
  | some n =>
    by_cases hn : n = 0
    · simp [NumberForm.numbers, hdimension, hn, numbersText]
    · simp [NumberForm.numbers, hdimension, hn, withNumber_eq]

/-- The text of a type: its word, its numbers, and in MySQL the word for a column that counts up. -/
theorem typeText_eq (c : Column) (d : Dialect) : c.typeText d =
    (c.type.words d).1 ++ numbersText ((c.type.words d).2.numbers c) ++
      if c.countsBehindType d then " AUTO_INCREMENT" else "" := by
  have hdimension := c.dimensionText_eq
  have hdecimal := c.decimalText_eq
  obtain ⟨id, name, type, primaryKey, nullable, unique, default, length, precision, scale, dimension⟩ := c
  cases d with
  | sqlite => cases type <;> rfl
  | mysql =>
    cases type <;> first
      | rfl
      | exact (hdecimal.trans (String.append_empty ..).symm)
      | exact (withNumber_eq ..).trans (String.append_empty ..).symm
  | postgresql =>
    cases type <;> first
      | rfl
      | exact (hdecimal.trans (String.append_empty ..).symm)
      | exact (withNumber_eq ..).trans (String.append_empty ..).symm
      | exact (hdimension _).trans (String.append_empty ..).symm

end Column

theorem positiveOr_some {n : Int} (hn : n ≠ 0) (default : Int) : positiveOr (some n) default = n := by
  simp [positiveOr, hn]

/-- Numbers that were read are written as they were before. -/
theorem NumberForm.numbers_typeNumbers {name : String} {f : NumberForm}
    (hf : (ColumnType.ofSpelling name).FormFits f) (c : Column) {c' : Column} {ns : TypeNumbers}
    (hns : ns = ColumnDefinition.typeNumbers name (f.numbers c)) (hlength : c'.length = ns.length)
    (hprecision : c'.precision = ns.precision) (hscale : c'.scale = ns.scale)
    (hdimension : c'.dimension = ns.dimension) : f.numbers c' = f.numbers c := by
  subst hns
  cases f with
  | none | fixed ns => rfl
  | decimal => simp [numbers, hprecision, hscale, ColumnDefinition.typeNumbers]
  | length n =>
    obtain ⟨hne, hdecimal, hvector⟩ := hf
    have hpositive : positiveOr c.length n ≠ 0 := by
      unfold positiveOr
      split
      · exact hne
      · split
        · exact hne
        · next h => simpa using h
    have hread : c'.length = some (positiveOr c.length n) := by
      rw [hlength]
      simp [numbers, ColumnDefinition.typeNumbers, hdecimal, hvector]
    rw [numbers, numbers, hread, positiveOr_some hpositive]
  | dimension =>
    obtain ⟨hdecimal, hvector⟩ := hf
    rw [numbers, hdimension, numbers]
    cases hc : c.dimension with
    | none => rfl
    | some n =>
      by_cases hn : n = 0
      · simp [hn, ColumnDefinition.typeNumbers]
      · simp [hn, ColumnDefinition.typeNumbers, hdecimal, hvector]

end SchemaDesk
