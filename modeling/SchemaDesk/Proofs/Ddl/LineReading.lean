import SchemaDesk.Proofs.Ddl.Line
import SchemaDesk.Proofs.Ddl.TypeReading
/-!
What the grammar makes of the lines of a table.
-/

namespace SchemaDesk.Ddl.Line

open Sql Sql.Reader Sql.Grammar Sql.Cursor

variable {d : Dialect} {n : Nested} {l t : Token} {us ts : List Token}

def names (ss : List String) : List Expr := ss.map fun s => .name { text := s }

/-- The item that a line is read as. -/
def item (d : Dialect) : Line → TableItem
  | column name type clauses =>
    .column (.name { text := name }) (some type.expr) (clauses.map (Clause.constraint d))
  | key first more => .rule none (.keyOf (names (first :: more)))

/-- The line is read as a whole: its type has no negative number, and its clauses fit. -/
def IsRead (d : Dialect) : Line → Prop
  | column _ type clauses =>
    (∀ n ∈ type.numbers, 0 ≤ n) ∧ Clause.AllFit d clauses ∧ (.uniqueDefault ∈ clauses → d = .mysql)
  | key _ _ => True

def wordShape (s : String) : TokenShape := ⟨.word, s, []⟩

theorem shapes_column (name : String) (type : TypeWords) (clauses : List Clause) :
    (column name type clauses).shapes =
      wordShape name :: (type.lexemes.filterMap Lexeme.shape? ++ clauses.flatMap Clause.shapes) := by
  have hclauses : (clauses.flatMap fun c => Lexeme.blank ' ' :: c.lexemes).filterMap Lexeme.shape? =
      clauses.flatMap Clause.shapes := by
    rw [List.filterMap_flatMap]
    rfl
  rw [shapes, lexemes, List.filterMap_cons, List.filterMap_cons, List.filterMap_append, hclauses]
  rfl

theorem shapes_key (first : String) (more : List String) :
    (key first more).shapes = ⟨.keyword "PRIMARY KEY", "PRIMARY KEY", []⟩ :: .opening ::
      (wordShape first :: more.flatMap (fun s => [.comma, wordShape s]) ++ [.closing]) := by
  have hmore : (more.flatMap fun s => [Lexeme.mark ',', .blank ' ', .verbatim .word s]).filterMap
      Lexeme.shape? = more.flatMap fun s => [.comma, wordShape s] := by
    rw [List.filterMap_flatMap]
    rfl
  rw [shapes, lexemes, nameLexemes, List.filterMap_cons, List.filterMap_cons, List.filterMap_cons,
    List.filterMap_append, List.filterMap_cons, hmore]
  rfl

/-! ### Keys -/

theorem takesEach_primaryKeyPart {s : String} (hs : IsPlain d s) :
    TakesEach (primaryKeyPart d n) (fun s => [wordShape s]) (fun s => .name { text := s }) s := by
  intro us ts hus hts
  obtain ⟨t, rfl, ht⟩ := List.map_eq_singleton_iff.mp hus
  have ht : t.Is .word s := Token.is_iff_shape.mpr ht
  exact .of_run_cons ht.comments fun l _ => hs.run_primaryKeyPart ht
    fun u hu => (hts.followedBy u hu).isMark_eq_false (by decide)

theorem run_indexParameters_none (h : FollowedBy ts) :
    (indexParameters d n).run (behind l ts) = .ok ([], behind l ts) := by
  have hkeys : (do
      if ← nextIsMark "(" then wrapped (values (indexKey n)) else return [] : Reader (List Expr)).run
        (behind l ts) = .ok ([], behind l ts) := by
    rw [nextIsMark, run_bind (run_nextIs_of_none fun t ht => (h t ht).isMark_eq_false (by decide))]
    rfl
  rw [indexParameters, run_bind (h.run_keyword (by decide))]
  simp only [Bool.false_eq_true, if_false]
  rw [run_bind hkeys, run_bind (h.run_word (by decide))]
  simp only [Bool.false_eq_true, if_false]
  rw [run_bind (h.run_keyword (by decide))]
  simp only [Bool.false_eq_true, if_false]
  rw [run_bind (h.run_keyword (by decide))]
  simp only [Bool.false_eq_true, if_false]
  rw [run_bind (h.run_word (by decide))]
  simp only [Bool.false_eq_true, if_false]
  rw [run_bind (h.run_keyword (by decide))]
  rfl

/-- The grammar takes the key of several columns. -/
theorem takes_keyOf {first : String} {more : List String} (h : ∀ s ∈ first :: more, IsPlain d s)
    (hus : us.map Token.shape = .opening ::
      (wordShape first :: more.flatMap (fun s => [.comma, wordShape s]) ++ [.closing]))
    (hts : EndsItem ts) : Takes (primaryKey d n) us ts (.keyOf (names (first :: more))) := by
  obtain ⟨o, us, rfl, ho, hus⟩ := List.map_eq_cons_iff.mp hus
  obtain ⟨vs, cs, rfl, hvs, hcs⟩ := List.map_eq_append_iff.mp hus
  obtain ⟨c, rfl, hc⟩ := List.map_eq_singleton_iff.mp hcs
  have hois : o.Is (.mark "(") "(" := Token.is_iff_shape.mpr ho
  have hcis : c.Is (.mark ")") ")" := Token.is_iff_shape.mpr hc
  have hvalues : Takes (wrapped (values (primaryKeyPart d n))) (o :: (vs ++ [c])) ts
      (names (first :: more)) :=
    takes_wrapped ho hc (takes_values first more (fun s hs => takesEach_primaryKeyPart (h s hs)) hvs
      (endsItems_cons hc))
  intro l hl
  obtain ⟨l', hl', hrun⟩ := hvalues l hl
  have horder : (orElse (takeIf (·.isKeyword "ASC")) (takeIf (·.isKeyword "DESC"))).run
      (behind l (o :: (vs ++ [c]) ++ ts)) = .ok (none, behind l (o :: (vs ++ [c]) ++ ts)) := by
    have hnot (name : String) : o.isKeyword name = false := by simp [Token.isKeyword_eq, hois.kind]
    rw [List.cons_append, run_orElse_none (run_takeIf_of_none (by simp [hnot]))]
    exact run_takeIf_of_none (by simp [hnot])
  have hopened : (nextIsMark "(").run (behind l (o :: (vs ++ [c]) ++ ts)) =
      .ok (true, behind l (o :: (vs ++ [c]) ++ ts)) := by
    rw [nextIsMark, run_nextIs, List.cons_append]
    simp [Token.isMark_of_shape ho]
  have hoption : ∀ t ∈ ts.head?, NoOption t := fun t ht =>
    noOption_of_follows (hts.followedBy t ht) (by
      rcases hts t ht with h | h <;> simp [(Token.is_iff_shape.mpr h).kind])
  refine ⟨l', hl', ?_⟩
  rw [primaryKey, run_bind horder, run_bind hopened]
  simp only [Bool.not_true, Bool.false_eq_true, if_false]
  rw [run_bind hrun, run_bind (run_indexParameters_none hts.followedBy),
    run_bind (run_keyOptions_none hoption)]
  rfl

theorem takes_key {columns : ColumnList} {first : String} {more : List String}
    (h : (key first more).IsValid d) (hus : us.map Token.shape = (key first more).shapes)
    (hts : EndsItem ts) :
    Takes (tableItems d n columns) us ts (some [(key first more).item d]) := by
  rw [shapes_key] at hus
  obtain ⟨t, us, rfl, ht, hus⟩ := List.map_eq_cons_iff.mp hus
  have ht : t.Is (.keyword "PRIMARY KEY") "PRIMARY KEY" := Token.is_iff_shape.mpr ht
  intro l hl
  obtain ⟨l', hl', hrun⟩ := takes_keyOf (n := n) h hus hts t ht.comments
  refine ⟨l', hl', ?_⟩
  have hconstraint : (keyword "CONSTRAINT").run (behind l (t :: us ++ ts)) =
      .ok (false, behind l (t :: us ++ ts)) := by
    rw [keyword, List.cons_append, run_skipIf_cons, if_neg (by simp [Token.isKeyword_eq, ht.kind])]
  have hquoted : (nextIs (·.kind == .quoted)).run (behind l (t :: us ++ ts)) =
      .ok (false, behind l (t :: us ++ ts)) := by
    rw [run_nextIs]
    simp [ht.kind]
  have hword : (oneOf (tableRuleWords d)).run (behind l (t :: us ++ ts)) =
      .ok (some "PRIMARY KEY", behind t (us ++ ts)) := by
    have hcaseless : t.caseless = "PRIMARY KEY" := ht.caseless (by decide)
    have htake : (t.kind != .text && (tableRuleWords d).contains t.caseless) = true := by
      rw [hcaseless, ht.kind]
      cases d <;> decide
    rw [oneOf, List.cons_append, run_bind (by rw [run_takeIf_cons, if_pos htake])]
    simp only [hcaseless]
    rfl
  have hrule : (ruleOf d n columns "PRIMARY KEY").run (behind t (us ++ ts)) =
      .ok (some (.keyOf (names (first :: more))), behind l' ts) := by
    show StateT.run (some <$> primaryKey d n) (behind t (us ++ ts)) = _
    rw [StateT.run_map, hrun]
    rfl
  have hunnamed : (unnamedRule d n columns (tableRuleWords d)).run (behind l (t :: us ++ ts)) =
      .ok (some (.keyOf (names (first :: more))), behind l' ts) := by
    rw [unnamedRule, run_bind hquoted]
    simp only [Bool.false_eq_true, if_false]
    rw [run_bind run_get, run_bind hword]
    simp only []
    rw [run_bind hrule]
    rfl
  have hrules : (tableRules d n columns).run (behind l (t :: us ++ ts)) =
      .ok (some [.rule none (.keyOf (names (first :: more)))], behind l' ts) := by
    rw [tableRules, run_bind hconstraint]
    simp only [Bool.false_eq_true, if_false]
    rw [run_bind hunnamed]
    rfl
  rw [tableItems, run_bind hrules]
  rfl

/-! ### Columns -/

theorem not_open_of_type {type : TypeWords} (htype : type.IsKnown d) {ss : List TokenShape}
    (hus : us.map Token.shape = type.lexemes.filterMap Lexeme.shape? ++ ss) :
    ∀ u ∈ (us ++ ts).head?, u.isMark "(" = false := by
  obtain ⟨u, us, rfl, hu, -⟩ := List.map_eq_cons_iff.mp hus
  have hu : u.Is type.kind type.name := Token.is_iff_shape.mpr hu
  intro v hv
  obtain rfl : u = v := by simpa using hv
  rcases TypeWords.form_cases htype with ⟨name, hkind, -⟩ | ⟨hkind, -⟩ | ⟨hkind, -⟩ <;>
    simp [Token.isMark_eq, hu.kind, hkind]

theorem followedBy_clauses {clauses : List Clause} (hhead : clauses.head? ≠ some .null)
    (hus : us.map Token.shape = clauses.flatMap Clause.shapes) (hts : FollowedBy ts) :
    FollowedBy (us ++ ts) := by
  cases clauses with
  | nil =>
    obtain rfl : us = [] := by simpa using hus
    exact hts
  | cons c cs =>
    obtain ⟨vs, ws, rfl, hvs, -⟩ := List.map_eq_append_iff.mp hus
    obtain ⟨t, vs, rfl, -, hfollows⟩ := Clause.exists_first hvs
    exact FollowedBy.cons (hfollows (by simpa using hhead))

theorem run_computedColumn_none (typed : Bool) (h : ∀ t ∈ ts.head?, t.isKeyword "ALIAS" = false) :
    (computedColumn d n typed).run (behind l ts) = .ok (none, behind l ts) := by
  rw [computedColumn, run_bind (run_secondIs _)]
  split
  · rfl
  · rw [keyword, run_bind (run_skipIf_of_none h)]
    rfl

theorem takes_columnItem (k j : Nat) {e : Expr} {type : TypeWords} {clauses : List Clause}
    (htype : type.IsKnown d) (hnumbers : ∀ n ∈ type.numbers, 0 ≤ n) (hfit : Clause.AllFit d clauses)
    (hmysql : .uniqueDefault ∈ clauses → d = .mysql) (hhead : clauses.head? ≠ some .null)
    (hus : us.map Token.shape =
      type.lexemes.filterMap Lexeme.shape? ++ clauses.flatMap Clause.shapes) (hts : EndsItem ts) :
    Takes (columnItem d (nested d (k + 2)) (columnGroup d n (j + 1)) e) us ts
      (.column e (some type.expr) (clauses.map (Clause.constraint d))) := by
  obtain ⟨vs, ws, rfl, hvs, hws⟩ := List.map_eq_append_iff.mp hus
  have hfollowed := followedBy_clauses hhead hws hts.followedBy
  intro l hl
  obtain ⟨m, hm, htyped⟩ := TypeWords.takes_type k htype hnumbers hvs hfollowed l hl
  obtain ⟨l', hl', hrest⟩ := Clause.takes_constraints_end (n := n) k j hfit hmysql hws hts m hm
  refine ⟨l', hl', ?_⟩
  have hdo : (nested d (k + 2)).type true true = typeWith d (nested d (k + 1)) true true false := rfl
  have halias : ∀ t ∈ (ws ++ ts).head?, t.isKeyword "ALIAS" = false := fun t ht =>
    (hfollowed t ht).isKeyword_eq_false (by decide)
  rw [columnItem, hdo, List.append_assoc, run_bind htyped, run_bind (hfollowed.run_words (by decide))]
  simp only [Bool.false_eq_true, if_false, Option.isSome_some, Option.isNone_some, Bool.false_and]
  rw [run_bind (run_computedColumn_none true halias), run_bind hrest]
  rfl

theorem run_tableItems_column {columns : ColumnList} {name : String} (hname : IsPlain d name)
    (ht : t.Is .word name) (hopen : ∀ u ∈ us.head?, u.isMark "(" = false) {i : TableItem} {c : Cursor}
    (h : (columnItem d n columns (.name { text := name })).run (behind t us) = .ok (i, c)) :
    (tableItems d n columns).run (behind l (t :: us)) = .ok (some [i], c) := by
  rw [tableItems, run_bind (hname.run_tableRules ht)]
  simp only []
  rw [run_bind (hname.run_field ht hopen)]
  simp only []
  rw [run_bind h]
  rfl

theorem takes_column (k j : Nat) {name : String} {type : TypeWords} {clauses : List Clause}
    (h : (column name type clauses).IsValid d) (hread : (column name type clauses).IsRead d)
    (hus : us.map Token.shape = (column name type clauses).shapes) (hts : EndsItem ts) :
    Takes (tableItems d (nested d (k + 2)) (columnGroup d n (j + 1))) us ts
      (some [(column name type clauses).item d]) := by
  obtain ⟨hname, htype, -, hhead⟩ := h
  obtain ⟨hnumbers, hfit, hmysql⟩ := hread
  rw [shapes_column] at hus
  obtain ⟨t, us, rfl, ht, hus⟩ := List.map_eq_cons_iff.mp hus
  have ht : t.Is .word name := Token.is_iff_shape.mpr ht
  intro l _
  obtain ⟨l', hl', hrun⟩ := takes_columnItem (n := n) (e := .name { text := name }) k j htype hnumbers
    hfit hmysql hhead hus hts t ht.comments
  refine ⟨l', hl', ?_⟩
  have hopen : ∀ u ∈ (us ++ ts).head?, u.isMark "(" = false := not_open_of_type htype hus
  rw [List.cons_append, run_tableItems_column hname ht hopen hrun]
  rfl

/-- The grammar takes every line that can be read as a whole. -/
theorem takesEach_line (k j : Nat) {x : Line} (hx : x.IsValid d) (hread : x.IsRead d) :
    TakesEach (tableItems d (nested d (k + 2)) (columnGroup d n (j + 1))) shapes
      (fun x => [x.item d]) x := by
  intro us ts hus hts
  cases x with
  | column name type clauses => exact takes_column k j hx hread hus hts
  | key first more => exact takes_key hx hus hts

/-! ### Columns that are not read as a whole -/

/-- A type has a negative number, or, in MySQL, something other than `NULL` stands behind
`UNIQUE DEFAULT`. -/
def IsStuck (d : Dialect) : Line → Prop
  | column _ type clauses =>
    (∃ n ∈ type.numbers, n < 0) ∨ ((∀ n ∈ type.numbers, 0 ≤ n) ∧ d = .mysql ∧ ∃ front x,
      clauses = front ++ [.unique, .default x] ∧ Clause.AllFit d (front ++ [.uniqueDefault]) ∧
        x ≠ .null)
  | key _ _ => False

/-- Neither a comma nor a closing parenthesis. -/
def IsInside (t : Token) : Prop := t.isMark "," = false ∧ t.isMark ")" = false

/-- Without a type, a column is a value. -/
theorem stops_negative (k j : Nat) {name : String} {type : TypeWords} {clauses : List Clause}
    (h : (column name type clauses).IsValid d) (hnegative : ∃ n ∈ type.numbers, n < 0) :
    StopsEach (tableItems d (nested d (k + 2)) (columnGroup d n (j + 1))) shapes IsInside
      (column name type clauses) := by
  obtain ⟨hname, htype, -, hhead⟩ := h
  intro us ts l hus hts _
  rw [shapes_column] at hus
  obtain ⟨t, us, rfl, ht, hus⟩ := List.map_eq_cons_iff.mp hus
  have ht : t.Is .word name := Token.is_iff_shape.mpr ht
  have hopen : ∀ u ∈ (us ++ ts).head?, u.isMark "(" = false := not_open_of_type htype hus
  obtain ⟨vs, ws, rfl, hvs, hws⟩ := List.map_eq_append_iff.mp hus
  have hnone := TypeWords.run_type_negative (l := t) k htype hnegative hvs
    (followedBy_clauses hhead hws hts.followedBy)
  obtain ⟨u, vs, rfl, hu, -⟩ := List.map_eq_cons_iff.mp hvs
  have hu : u.Is type.kind type.name := Token.is_iff_shape.mpr hu
  have hkind : ∃ w, u.kind = .type w ∨ u.kind = .word := by
    rcases TypeWords.form_cases htype with ⟨w, hkind, -⟩ | ⟨hkind, -⟩ | ⟨hkind, -⟩
    · exact ⟨w, Or.inl (hu.kind.trans hkind)⟩
    · exact ⟨_, Or.inl (hu.kind.trans hkind)⟩
    · exact ⟨"", Or.inr (hu.kind.trans hkind)⟩
  have hmark (m : String) : u.isMark m = false := by
    obtain ⟨w, hkind | hkind⟩ := hkind <;> simp [Token.isMark_eq, hkind]
  have hkeyword (w : String) : u.isKeyword w = false := by
    obtain ⟨w, hkind | hkind⟩ := hkind <;> simp [Token.isKeyword_eq, hkind]
  have hwords : u.caseless ≠ "FOR" ∧ u.caseless ∉ ruleWords d := by
    have hall : ∀ f ∈ TypeWords.forms d, f.2.2 = 0 ∨ Text.collapse (Text.upper f.2.1) ≠ "FOR" ∧
        Text.collapse (Text.upper f.2.1) ∉ ruleWords d := by
      cases d <;> decide
    rw [Token.caseless, hu.text]
    refine (hall _ htype).resolve_left fun hzero => ?_
    obtain ⟨n, hn, -⟩ := hnegative
    rw [List.length_eq_zero_iff.mp hzero] at hn
    cases hn
  have hhead : ∀ v ∈ (u :: vs ++ ws ++ ts).head?, u = v := by simp
  have hitem : (columnItem d (nested d (k + 2)) (columnGroup d n (j + 1)) (.name { text := name })).run
      (behind t (u :: vs ++ ws ++ ts)) =
        .ok (.value none (.name { text := name }), behind t (u :: vs ++ ws ++ ts)) := by
    have hdo : (nested d (k + 2)).type true true = typeWith d (nested d (k + 1)) true true false := rfl
    have hfor : (words ["FOR", "ORDINALITY"]).run (behind t (u :: vs ++ ws ++ ts)) =
        .ok (false, behind t (u :: vs ++ ws ++ ts)) :=
      run_wordsFrom_of_none fun v hv => by simp [← hhead v hv, Token.reads_eq, hwords.1]
    have hcomputed := run_computedColumn_none (d := d) (n := nested d (k + 2)) (l := t) false
      fun v hv => hhead v hv ▸ hkeyword "ALIAS"
    have hmany : (many (columnConstraint d (nested d (k + 2)) (columnGroup d n (j + 1)))).run
        (behind t (u :: vs ++ ws ++ ts)) = .ok ([], behind t (u :: vs ++ ws ++ ts)) :=
      run_many_none (Clause.run_columnConstraint_none (fun v hv => hhead v hv ▸ hkeyword "CONSTRAINT")
        fun v hv => by simpa [← hhead v hv] using fun _ => hwords.2)
    rw [← List.append_assoc] at hnone
    rw [columnItem, hdo, run_bind hnone, run_bind hfor]
    simp only [Bool.false_eq_true, if_false, Option.isSome_none, Option.isNone_none]
    rw [run_bind hcomputed, run_bind hmany]
    rfl
  have hrun := run_tableItems_column (l := l) hname ht hopen hitem
  refine ⟨some [.value none (.name { text := name })], t, u, vs ++ ws ++ ts, hrun,
    ⟨hmark ",", hmark ")"⟩, ?_⟩
  simp only [List.cons_append, List.length_cons, List.length_append]
  omega

theorem reads_start {x : Literal} (hx : x.IsFound d) (hnull : x ≠ .null)
    (hus : us.map Token.shape = x.lexemes.filterMap Lexeme.shape?) :
    ∃ t vs, us = t :: vs ∧ IsInside t ∧ NoOption t ∧ (∀ w, t.isKeyword w = true →
      w ∈ ["TRUE", "FALSE", "CURRENT_TIMESTAMP"]) ∧ t.reads "ON" = false ∧
        ∀ w ∈ ruleWords d, t.reads w = false := by
  obtain ⟨t, vs, rfl, ht⟩ := Literal.exists_first hx hnull hus
  have hkeyword (w : String) (hw : t.isKeyword w = true) :
      w ∈ ["TRUE", "FALSE", "CURRENT_TIMESTAMP"] := by
    have hkind := ht.kind
    rw [Token.isKeyword_eq, beq_iff_eq] at hw
    simpa [hw] using hkind
  have hmark (m : String) (hm : m ≠ "-") : t.isMark m = false := by
    have hkind := ht.kind
    by_contra hcontra
    rw [Bool.not_eq_false, Token.isMark_eq, beq_iff_eq] at hcontra
    simp [hcontra, hm] at hkind
  have hfirst : ∀ w ∈ ruleWords d, (∀ c ∈ w.toList.head?, c.isDigit = false) ∧
      w ∉ ["-", "TRUE", "FALSE", "CURRENT_TIMESTAMP"] := by
    cases d <;> decide
  have hoption : ∀ ws ∈ keyOptionWords, ∀ w ∈ ws.head?, (∀ c ∈ w.toList.head?, c.isDigit = false) ∧
      w ∉ ["-", "TRUE", "FALSE", "CURRENT_TIMESTAMP"] := by
    decide
  refine ⟨t, vs, rfl, ⟨hmark "," (by decide), hmark ")" (by decide)⟩, ⟨?_, ?_, hmark "(" (by decide)⟩,
    hkeyword, ht.reads "ON" (by decide) (by decide),
    fun w hw => ht.reads w (hfirst w hw).1 (hfirst w hw).2⟩
  · by_contra hon
    exact absurd (hkeyword "ON" (by simpa using hon)) (by decide)
  · exact fun ws hws w hw => ht.reads w (hoption ws hws w hw).1 (hoption ws hws w hw).2

/-- In MySQL, a default behind `UNIQUE` is the name of the key and something that does not belong
there. -/
theorem stops_default (k j : Nat) {name : String} {type : TypeWords} {front : List Clause} {x : Literal}
    (h : (column name type (front ++ [.unique, .default x])).IsValid .mysql)
    (hnumbers : ∀ n ∈ type.numbers, 0 ≤ n)
    (hfit : Clause.AllFit .mysql (front ++ [.uniqueDefault])) (hnull : x ≠ .null) :
    StopsEach (tableItems .mysql (nested .mysql (k + 2)) (columnGroup .mysql n (j + 1))) shapes IsInside
      (column name type (front ++ [.unique, .default x])) := by
  obtain ⟨hname, htype, hvalid, hhead⟩ := h
  intro us ts l hus hts _
  have hsplit : (front ++ [Clause.unique, .default x]).flatMap Clause.shapes =
      (front ++ [Clause.uniqueDefault]).flatMap Clause.shapes ++ x.lexemes.filterMap Lexeme.shape? := by
    simp only [List.flatMap_append, List.append_assoc, List.flatMap_cons, List.flatMap_nil, List.append_nil]
    rfl
  rw [shapes_column, hsplit] at hus
  obtain ⟨t, us, rfl, ht, hus⟩ := List.map_eq_cons_iff.mp hus
  have ht : t.Is .word name := Token.is_iff_shape.mpr ht
  have hopen : ∀ u ∈ (us ++ ts).head?, u.isMark "(" = false := not_open_of_type htype hus
  obtain ⟨vs, ws, rfl, hvs, hws⟩ := List.map_eq_append_iff.mp hus
  obtain ⟨ps, qs, rfl, hps, hqs⟩ := List.map_eq_append_iff.mp hws
  have hx : x.IsFound .mysql := hvalid (.default x) (by simp)
  obtain ⟨u, qs, rfl, hinside, hoption, hkeyword, hon, hwords⟩ := reads_start hx hnull hqs
  have hnot (w : String) (hw : w ∉ ["TRUE", "FALSE", "CURRENT_TIMESTAMP"]) : u.isKeyword w = false := by
    by_contra hcontra
    exact hw (hkeyword w (by simpa using hcontra))
  have hhead' : ∀ v ∈ (u :: qs ++ ts).head?, u = v := by simp
  have hfront : (front ++ [Clause.uniqueDefault]).head? ≠ some .null := by
    cases front with
    | nil => simp
    | cons c cs => simpa using hhead
  have hfollowed : FollowedBy (ps ++ (u :: qs ++ ts)) := by
    cases hfc : front ++ [Clause.uniqueDefault] with
    | nil => simp at hfc
    | cons c cs =>
      rw [hfc] at hps hfront
      obtain ⟨as, bs, rfl, has, -⟩ := List.map_eq_append_iff.mp hps
      obtain ⟨a, as, rfl, -, hfollows⟩ := Clause.exists_first has
      exact FollowedBy.cons (hfollows (by simpa using hfront))
  obtain ⟨m, hm, htyped⟩ := TypeWords.takes_type k htype hnumbers hvs hfollowed t ht.comments
  have hconstraints : Takes
      (many (columnConstraint .mysql (nested .mysql (k + 2)) (columnGroup .mysql n (j + 1)))) ps
      (u :: qs ++ ts) ((front ++ [Clause.uniqueDefault]).map (Clause.constraint .mysql)) :=
    Clause.takes_constraints k j hfit hps (by
      simp only [List.getLast?_append, List.getLast?_singleton, Option.some_or, Option.mem_def,
        Option.some.injEq, forall_eq']
      exact ⟨rfl, fun v hv => hhead' v hv ▸ ⟨hoption, hnot "USING" (by decide), hon⟩⟩)
    (fun l => Clause.run_columnConstraint_none
      (fun v hv => hhead' v hv ▸ hnot "CONSTRAINT" (by decide)) fun v hv => by
        rw [← hhead' v hv]
        by_contra hcontains
        rw [Bool.not_eq_false, Bool.and_eq_true] at hcontains
        have hreads := hwords u.caseless (by simpa using hcontains.2)
        rw [Token.reads_eq, hcontains.1] at hreads
        simp at hreads)
  obtain ⟨l', -, hmany⟩ := hconstraints m hm
  have hitem : (columnItem .mysql (nested .mysql (k + 2)) (columnGroup .mysql n (j + 1))
      (.name { text := name })).run (behind t (vs ++ (ps ++ u :: qs) ++ ts)) =
        .ok (.column (.name { text := name }) (some type.expr)
          ((front ++ [Clause.uniqueDefault]).map (Clause.constraint .mysql)), behind l' (u :: qs ++ ts)) := by
    have hdo : (nested .mysql (k + 2)).type true true =
        typeWith .mysql (nested .mysql (k + 1)) true true false := rfl
    have halias : ∀ t ∈ (ps ++ (u :: qs ++ ts)).head?, t.isKeyword "ALIAS" = false := fun t ht =>
      (hfollowed t ht).isKeyword_eq_false (by decide)
    rw [columnItem, hdo, List.append_assoc, List.append_assoc, run_bind htyped,
      run_bind (hfollowed.run_words (by decide))]
    simp only [Bool.false_eq_true, if_false, Option.isSome_some, Option.isNone_some, Bool.false_and]
    rw [run_bind (run_computedColumn_none true halias), run_bind hmany]
    rfl
  have hrun := run_tableItems_column (l := l) hname ht hopen hitem
  refine ⟨_, l', u, qs ++ ts, hrun, hinside, ?_⟩
  simp only [List.length_cons, List.length_append]
  omega

theorem stopsEach_line (k j : Nat) {x : Line} (hx : x.IsValid d) (hstuck : x.IsStuck d) :
    StopsEach (tableItems d (nested d (k + 2)) (columnGroup d n (j + 1))) shapes IsInside x := by
  cases x with
  | column name type clauses =>
    rcases hstuck with hnegative | ⟨hnumbers, rfl, front, x, rfl, hfit, hnull⟩
    · exact stops_negative k j hx hnegative
    · exact stops_default k j hx hnumbers hfit hnull
  | key first more => exact hstuck.elim

end SchemaDesk.Ddl.Line
