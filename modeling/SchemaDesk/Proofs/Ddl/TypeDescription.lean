import SchemaDesk.Proofs.Ddl.Type
import SchemaDesk.Proofs.Text.Blank
import SchemaDesk.Proofs.Text.Digit
import SchemaDesk.Sql.Description
/-!
How the types of columns are described: the word as it is written, and the numbers behind it.
-/

namespace SchemaDesk.Ddl.TypeWords

open Sql

variable {d : Dialect}

/-! ### Canonical texts -/

/-- What the canonical text of a type has in front of its numbers. -/
def canonicalFront (d : Dialect) (t : TypeWords) : String :=
  match t.kind with
  | .type name => ((TypeName.table d).lookup name).getD name
  | _ => t.name

/-- So many numbers behind a type of that name change nothing else in its canonical text. -/
def IsRegular (name : String) (n : Nat) : Prop :=
  (name = "INTERVAL" ∨ name = "FLOAT" ∨ name = "DOUBLE" → n = 0) ∧ (name = "VARCHAR" → n ≠ 0) ∧
    name ∉ TypeName.unsigned

instance (name : String) (n : Nat) : Decidable (IsRegular name n) := by
  unfold IsRegular
  infer_instance

theorem isRegular_of_mem_forms {name s : String} {n : Nat} (h : (.type name, s, n) ∈ forms d) :
    IsRegular name n := by
  have hall : ∀ f ∈ forms d, (match f.1 with
      | .type name => decide (IsRegular name f.2.2)
      | _ => true) = true := by
    cases d <;> decide +kernel
  exact of_decide_eq_true (hall _ h)

theorem typeName_text {name : String} {parameters : List String}
    (h : IsRegular name parameters.length) :
    TypeName.text d name parameters =
      ((TypeName.table d).lookup name).getD name ++ listInParens parameters := by
  obtain ⟨hnumbers, hvarchar, hunsigned⟩ := h
  cases parameters with
  | nil =>
    have hname : (name == "VARCHAR") = false := beq_eq_false_iff_ne.mpr fun h => hvarchar h rfl
    cases d <;> simp [TypeName.text, hname, hunsigned]
  | cons p ps =>
    have hname (s : String) (hs : s = "INTERVAL" ∨ s = "FLOAT" ∨ s = "DOUBLE") : (name == s) = false :=
      beq_eq_false_iff_ne.mpr fun h => by cases hnumbers (h ▸ hs)
    cases d <;> simp [TypeName.text, hname, hunsigned]

/-- The texts of the numbers. -/
def numberTexts (ns : List Int) : List String := ns.map fun n => String.ofList (Nat.toDigits 10 n.natAbs)

theorem renders_parameters (ns : List Int) : Expr.renders d (ns.map parameter) = numberTexts ns := by
  induction ns with
  | nil => simp [Expr.renders, numberTexts]
  | cons n ns ih =>
    rw [List.map_cons, Expr.renders, ih, parameter, Expr.render]
    rfl

theorem render_expr {t : TypeWords} (ht : t.IsKnown d) :
    t.expr.render d = t.canonicalFront d ++ listInParens (numberTexts t.numbers) := by
  obtain ⟨kind, name, numbers⟩ := t
  have hform : (kind, name, numbers.length) ∈ forms d := ht
  rcases form_cases hform with ⟨type, rfl, hsimple⟩ | ⟨rfl, hnone⟩ | ⟨rfl, -⟩
  · have hinterval : type ≠ "INTERVAL" := by
      rintro rfl
      revert hsimple
      decide
    have hexpr : expr ⟨.type type, name, numbers⟩ = .named type (numbers.map parameter) := by
      unfold expr
      split
      · next heq => exact (hinterval (TokenKind.type.inj heq)).elim
      · next heq => rw [TokenKind.type.inj heq]; rfl
      · next hnot => exact (hnot type rfl).elim
    have hregular := isRegular_of_mem_forms hform
    rw [hexpr, TypeExpr.render, renders_parameters, typeName_text (by simpa [numberTexts] using hregular)]
    rfl
  · obtain rfl : numbers = [] := List.length_eq_zero_iff.mp hnone
    have hregular : IsRegular "INTERVAL" ([] : List String).length := by decide
    show (TypeExpr.noted [] (.named "INTERVAL" [])).render d = _
    rw [TypeExpr.render, TypeExpr.render, Expr.renders, typeName_text hregular]
    rfl
  · show (TypeExpr.userDefined [{ text := name }] (numbers.map parameter)).render d = _
    rw [TypeExpr.render, renders_parameters]
    rfl

/-! ### Numbers -/

theorem opening_notMem_canonicalFront {t : TypeWords} (ht : t.IsKnown d) :
    '(' ∉ (t.canonicalFront d).toList := by
  have hall : ∀ f ∈ forms d, '(' ∉ (canonicalFront d ⟨f.1, f.2.1, []⟩).toList := by
    cases d <;> decide +kernel
  exact hall _ ht

theorem bne_of_notMem {a c : Char} {cs : List Char} (h : a ∉ cs) (hc : c ∈ cs) : (c != a) = true := by
  rw [bne_iff_ne]
  rintro rfl
  exact h hc

theorem splitParameters_eq_none {cs : List Char} (h : '(' ∉ cs) : Describe.splitParameters cs = none := by
  have hfront : cs.takeWhile (· != '(') = cs := List.takeWhile_eq_self_iff.mpr fun c hc => bne_of_notMem h hc
  simp [Describe.splitParameters, hfront]

/-- The first pair of parentheses. -/
theorem splitParameters_eq_some {front inner : List Char} (hfront : '(' ∉ front) (hinner : ')' ∉ inner) :
    Describe.splitParameters (front ++ '(' :: (inner ++ [')'])) = some (inner, Text.stripChars front) := by
  have htake : (front ++ '(' :: (inner ++ [')'])).takeWhile (· != '(') = front := by
    rw [List.takeWhile_append_of_pos fun c hc => bne_of_notMem hfront hc,
      List.takeWhile_cons_of_neg (by simp), List.append_nil]
  have hbody : (inner ++ [')']).takeWhile (· != ')') = inner := by
    rw [List.takeWhile_append_of_pos fun c hc => bne_of_notMem hinner hc,
      List.takeWhile_cons_of_neg (by simp), List.append_nil]
  simp [Describe.splitParameters, htake, hbody]

theorem notMem_toDigits {c : Char} (hc : c.isDigit = false) (n : Nat) : c ∉ Nat.toDigits 10 n :=
  fun h => by simp [Text.isDigit_of_mem_toDigits h] at hc

/-- A numeral among parameters, whatever blank stands in front of it. -/
theorem numbers_cons (bs : List Char) (hbs : ∀ b ∈ bs, Text.isBlank b = true) {n : Int} (hn : 0 ≤ n)
    (ps : List (List Char)) : Describe.numbers ((bs ++ Nat.toDigits 10 n.natAbs) :: ps) =
      (Describe.numbers ps).map (n :: ·) := by
  have hstrip := Text.stripChars_toDigits hbs (List.forall_mem_nil _) n.natAbs
  rw [List.append_nil] at hstrip
  have hint : ((n.natAbs : Nat) : Int) = n := Int.natAbs_of_nonneg hn
  simp only [Describe.numbers, hstrip, Text.allDigits_toDigits, Text.readNat?_toDigits, if_true, hint]

theorem length_le_two {t : TypeWords} (ht : t.IsKnown d) : t.numbers.length ≤ 2 := by
  have hall : ∀ f ∈ forms d, f.2.2 ≤ 2 := by cases d <;> decide
  exact hall _ ht

/-- The numbers behind the front of a type are found, if there are any. -/
theorem numbers_canonical {front : List Char} (hfront : '(' ∉ front) {ns : List Int}
    (hlength : ns.length ≤ 2) (hns : ∀ n ∈ ns, 0 ≤ n) :
    (ns = [] ∧ Describe.splitParameters (front ++ (listInParens (numberTexts ns)).toList) = none) ∨
      ∃ inner rest, Describe.splitParameters (front ++ (listInParens (numberTexts ns)).toList) =
        some (inner, rest) ∧ Describe.numbers (inner.splitOnP (· == ',')) = .ok ns := by
  have hcomma (n : Int) : ∀ c ∈ Nat.toDigits 10 n.natAbs, (c == ',') = false := fun c hc =>
    beq_eq_false_iff_ne.mpr fun h => notMem_toDigits (c := ',') (by decide) _ (h ▸ hc)
  have hclosing (n : Int) : ')' ∉ Nat.toDigits 10 n.natAbs := notMem_toDigits (by decide) _
  match ns, hlength, hns with
  | [], _, _ =>
    refine Or.inl ⟨rfl, splitParameters_eq_none ?_⟩
    simpa [numberTexts, listInParens] using hfront
  | [n], _, hns =>
    have htext : (listInParens (numberTexts [n])).toList = '(' :: (Nat.toDigits 10 n.natAbs ++ [')']) := by
      simp [numberTexts, listInParens, commaList]
    refine Or.inr ⟨_, _, by rw [htext, splitParameters_eq_some hfront (hclosing n)], ?_⟩
    rw [List.splitOnP_eq_singleton (hcomma n)]
    exact numbers_cons [] nofun (hns n (by simp)) []
  | [n, m], _, hns =>
    have hpair (a b : String) : commaList [a, b] = a ++ ", " ++ b := rfl
    have htext : (listInParens (numberTexts [n, m])).toList =
        '(' :: ((Nat.toDigits 10 n.natAbs ++ ',' :: ([' '] ++ Nat.toDigits 10 m.natAbs)) ++ [')']) := by
      simp [numberTexts, listInParens, hpair]
    have hinner : ')' ∉ Nat.toDigits 10 n.natAbs ++ ',' :: ([' '] ++ Nat.toDigits 10 m.natAbs) := by
      simp [hclosing]
    have hblank : ∀ c ∈ [' '] ++ Nat.toDigits 10 m.natAbs, (c == ',') = false :=
      List.forall_mem_cons.mpr ⟨rfl, hcomma m⟩
    have hfirst := numbers_cons [] nofun (hns n (by simp)) [[' '] ++ Nat.toDigits 10 m.natAbs]
    have hlast := numbers_cons [' '] (by decide) (hns m (by simp)) []
    refine Or.inr ⟨_, _, by rw [htext, splitParameters_eq_some hfront hinner], ?_⟩
    rw [List.splitOnP_append_cons _ _ (by rfl), List.splitOnP_eq_singleton (hcomma n),
      List.splitOnP_eq_singleton hblank, List.singleton_append, ← List.nil_append (Nat.toDigits 10 n.natAbs),
      hfirst, hlast]
    rfl

/-! ### Descriptions -/

/-- The word of some type, whatever its numbers. -/
def IsWord (d : Dialect) (w : String) : Prop := ∃ kind n, (kind, w, n) ∈ forms d

/-- What a description says of a type: some known word, and at most two numbers. -/
structure IsWorded (d : Dialect) (t : TypeWords) : Prop where
  word : IsWord d t.name
  few : t.numbers.length ≤ 2

theorem IsKnown.isWord {t : TypeWords} (ht : t.IsKnown d) : IsWord d t.name := ⟨_, _, ht⟩

theorem IsKnown.isWorded {t : TypeWords} (ht : t.IsKnown d) : t.IsWorded d := ⟨ht.isWord, length_le_two ht⟩

theorem IsWord.written {w : String} (hw : IsWord d w) : w ≠ "" ∧ Text.collapse (Text.upper w) = w := by
  have hall : ∀ f ∈ forms d, f.2.1 ≠ "" ∧ Text.collapse (Text.upper f.2.1) = f.2.1 := by
    cases d <;> decide +kernel
  obtain ⟨kind, n, hmem⟩ := hw
  exact hall _ hmem

/-- The description of a type has its word and its numbers. -/
def description (t : TypeWords) : Value :=
  .record (("dataType", .text t.name) :: Describe.lengthField t.numbers)

/-- A type is described with the word that is found for it. -/
theorem dataType_eq {t : TypeWords} (ht : t.IsKnown d) (hnumbers : ∀ n ∈ t.numbers, 0 ≤ n) {w : String}
    (hw : IsWord d w) : Describe.dataType d (some t.expr) (some w) = .ok { t with name := w }.description := by
  obtain ⟨hne, hwritten⟩ := hw.written
  have hname : ((some w).filter (· != "")) = some w := by simp [Option.filter, hne]
  unfold Describe.dataType
  simp only [render_expr ht, String.toList_append, hname, Option.getD_some, hwritten]
  rcases numbers_canonical (opening_notMem_canonicalFront ht) (length_le_two ht) hnumbers with
    ⟨hnil, hsplit⟩ | ⟨inner, rest, hsplit, hns⟩
  · rw [hsplit, description, hnil]
    rfl
  · rw [hsplit]
    simp only [hns]
    rfl

end SchemaDesk.Ddl.TypeWords
