import SchemaDesk.Proofs.Ddl.LineReading
import SchemaDesk.Proofs.Ddl.Statement
import SchemaDesk.Proofs.Sql.Reading.End
/-!
How the grammar reads the statement that creates a table: what it makes of the lines between the parentheses, and
then of the whole.
-/

/-! ### The lines -/

namespace SchemaDesk.Ddl.Line

open Sql Sql.Reader Sql.Grammar Sql.Cursor

variable {d : Dialect} {n : Nested} {l : Token} {us ts : List Token} {first : Line} {more : List Line}

/-- The shapes of the lines, with the parentheses around them. -/
def groupShapes (first : Line) (more : List Line) : List TokenShape :=
  .opening :: (first.shapes ++ more.flatMap (fun x => .comma :: x.shapes) ++ [.closing])

theorem run_withComments (items : List TableItem) {l : Token} (ts : List Token) (hl : l.comments = []) :
    (withComments items).run (behind l ts) = .ok (items, behind l ts) := by
  unfold withComments
  split
  · rw [run_bind (run_takeComments hl), List.append_nil]
    rfl
  · rw [run_bind (run_noted hl _)]
    rfl
  · rw [run_bind (run_takeComments hl)]
    rfl

/-- A line starts with a name or with the words for a key. -/
theorem exists_first {x : Line} (hus : us.map Token.shape = x.shapes) :
    ∃ t vs, us = t :: vs ∧ (t.kind = .word ∨ t.kind = .keyword "PRIMARY KEY") := by
  cases x with
  | column name type clauses =>
    rw [shapes_column] at hus
    obtain ⟨t, vs, rfl, ht, -⟩ := List.map_eq_cons_iff.mp hus
    have ht : t.Is .word name := Token.is_iff_shape.mpr ht
    exact ⟨t, vs, rfl, Or.inl ht.kind⟩
  | key first more =>
    rw [shapes_key] at hus
    obtain ⟨t, vs, rfl, ht, -⟩ := List.map_eq_cons_iff.mp hus
    have ht : t.Is (.keyword "PRIMARY KEY") "PRIMARY KEY" := Token.is_iff_shape.mpr ht
    exact ⟨t, vs, rfl, Or.inr ht.kind⟩

/-- No query and no parenthesis starts where a line does. -/
theorem not_opens (hus : us.map Token.shape = first.shapes ++ more.flatMap fun x => .comma :: x.shapes) :
    ∀ t ∈ (us ++ ts).head?, (t.isMark "(" || t.isKeyword "WITH" || t.isKeyword "SELECT") = false := by
  obtain ⟨vs, ws, rfl, hvs, -⟩ := List.map_eq_append_iff.mp hus
  obtain ⟨t, vs, rfl, hkind⟩ := exists_first hvs
  intro u hu
  obtain rfl : t = u := by simpa using hu
  rcases hkind with hkind | hkind <;> simp [Token.isMark_eq, Token.isKeyword_eq, hkind]

/-- A definition is taken if all its items are, and if it is neither a query nor another parenthesis. -/
theorem takes_definition_items {β : Type} {columns : ColumnList} {o c : Token}
    {shapes : β → List TokenShape} {item : β → List TableItem} {y : β} {ys : List β}
    (ho : o.shape = .opening) (hc : c.shape = .closing)
    (heach : ∀ z ∈ y :: ys, TakesEach (tableItems d n columns) shapes item z)
    (hus : us.map Token.shape = shapes y ++ ys.flatMap fun z => .comma :: shapes z)
    (hopens : ∀ t ∈ (us ++ c :: ts).head?,
      (t.isMark "(" || t.isKeyword "WITH" || t.isKeyword "SELECT") = false) :
    Takes (definition d n columns) (o :: (us ++ [c])) ts (some ((y :: ys).flatMap item, [])) := by
  have hois : o.Is (.mark "(") "(" := Token.is_iff_shape.mpr ho
  have hcis : c.Is (.mark ")") ")" := Token.is_iff_shape.mpr hc
  intro l _
  obtain ⟨l', -, hrun⟩ :=
    takes_items run_withComments y ys heach hus (endsItems_cons hc) o hois.comments
  refine ⟨c, hcis.comments, ?_⟩
  rw [definition, run_bind run_get, mark, List.cons_append,
    run_bind (by rw [run_skipIf_cons, if_pos (Token.isMark_of_shape ho)]), List.append_assoc,
    List.singleton_append]
  simp only [Bool.not_true, Bool.false_eq_true, if_false]
  rw [run_bind (run_nextIs_of_none hopens)]
  simp only [Bool.false_eq_true, if_false]
  rw [items_bind, run_bind hrun, run_bind (run_expectMark (Token.isMark_of_shape hc)),
    run_bind (run_takeComments hcis.comments), ← List.flatMap_def]
  rfl

/-- The grammar takes lines that can all be read as a whole, with the parentheses around them. -/
theorem takes_definition (k j : Nat) (hvalid : ∀ x ∈ first :: more, x.IsValid d)
    (hread : ∀ x ∈ first :: more, x.IsRead d) (hus : us.map Token.shape = groupShapes first more) :
    Takes (definition d (nested d (k + 2)) (columnGroup d n (j + 1))) us ts
      (some ((first :: more).map (item d), [])) := by
  obtain ⟨o, us, rfl, ho, hus⟩ := List.map_eq_cons_iff.mp hus
  obtain ⟨vs, cs, rfl, hvs, hcs⟩ := List.map_eq_append_iff.mp hus
  obtain ⟨c, rfl, hc⟩ := List.map_eq_singleton_iff.mp hcs
  rw [List.map_eq_flatMap]
  exact takes_definition_items ho hc (fun x hx => takesEach_line k j (hvalid x hx) (hread x hx)) hvs
    (not_opens hvs)

/-- The definition of a table with a line that is not read as a whole is a fault. -/
theorem definition_stuck (k j : Nat) (hvalid : ∀ x ∈ first :: more, x.IsValid d)
    (hread : ∀ x ∈ first :: more, x.IsRead d ∨ x.IsStuck d) (hstuck : ∃ x ∈ first :: more, x.IsStuck d)
    (hus : us.map Token.shape = groupShapes first more) :
    ∃ f, (definition d (nested d (k + 2)) (columnGroup d n (j + 1))).run (behind l (us ++ ts)) =
      .error f := by
  obtain ⟨o, us, rfl, ho, hus⟩ := List.map_eq_cons_iff.mp hus
  obtain ⟨vs, cs, rfl, hvs, hcs⟩ := List.map_eq_append_iff.mp hus
  obtain ⟨c, rfl, hc⟩ := List.map_eq_singleton_iff.mp hcs
  have hois : o.Is (.mark "(") "(" := Token.is_iff_shape.mpr ho
  have heach : ∀ x ∈ first :: more,
      TakesEach (tableItems d (nested d (k + 2)) (columnGroup d n (j + 1))) shapes (fun x => [item d x]) x ∨
      StopsEach (tableItems d (nested d (k + 2)) (columnGroup d n (j + 1))) shapes IsInside x :=
    fun x hx => (hread x hx).imp (takesEach_line k j (hvalid x hx)) (stopsEach_line k j (hvalid x hx))
  have hends : EndsItems (c :: ts) := endsItems_cons hc
  obtain ⟨x, hx, hstops⟩ := hstuck
  obtain ⟨as, l', m, rest, hrun, hm, -⟩ := stops_items (l := o) run_withComments
    (fun _ hm => hm.1) hois.comments first more heach ⟨x, hx, stopsEach_line k j (hvalid x hx) hstops⟩ hvs hends
  have hclose : (expectMark ")").run (behind l' (m :: rest)) = .error ⟨.expected ")", m.stop⟩ := by
    rw [expectMark, mark, run_bind (by rw [run_skipIf_cons, if_neg (by simp [hm.2])])]
    rfl
  refine ⟨⟨.expected ")", m.stop⟩, ?_⟩
  rw [definition, run_bind run_get, mark, List.cons_append,
    run_bind (by rw [run_skipIf_cons, if_pos (Token.isMark_of_shape ho)]), List.append_assoc,
    List.singleton_append]
  simp only [Bool.not_true, Bool.false_eq_true, if_false]
  rw [run_bind (run_nextIs_of_none (not_opens hvs))]
  simp only [Bool.false_eq_true, if_false]
  rw [items_bind, run_bind hrun]
  exact run_bind_error hclose _

end SchemaDesk.Ddl.Line

/-! ### The statement -/

namespace SchemaDesk.Ddl

open Sql Sql.Reader Sql.Grammar Sql.Cursor

variable {d : Dialect} {s : Setting} {name : String} {k : Nat} {l l' c t o : Token} {us ts : List Token}
  {items : List TableItem}

/-- A table without qualifiers. -/
def tableNamed (name : String) : TableName := { qualifiers := [], name := { text := name } }

theorem run_tableName (ht : t.Is .word name) (hts : ∀ u ∈ ts.head?, u.isMark "." = false) :
    tableName.run (behind l (t :: ts)) = .ok (tableNamed name, behind t ts) := by
  have hpart : tablePart.run (behind l (t :: ts)) = .ok (some { text := name }, behind t ts) := by
    rw [tablePart, run_orElse_some (run_name ht)]
  have hpoint : (do
      if ← mark "." then return some ((← tablePart).getD { text := "" })
      return none : Reader (Option Ident)).run (behind t ts) = .ok (none, behind t ts) := by
    rw [mark, run_bind (run_skipIf_of_none hts)]
    rfl
  rw [tableName, run_bind hpart]
  simp only []
  rw [tableFrom, run_bind (run_many_none hpoint)]
  rfl

theorem run_existsClause_none (negated : Bool) (hts : ∀ t ∈ ts.head?, t.reads "IF" = false) :
    (existsClause negated).run (behind l ts) = .ok (false, behind l ts) := by
  have hif : (word "IF").run (behind l ts) = .ok (false, behind l ts) := run_wordsFrom_of_none hts
  rw [existsClause, run_andM hif]
  rfl

theorem run_createdKind (ht : t.Is (.keyword "TABLE") "TABLE") :
    (createdKind s).run (behind l (t :: ts)) = .ok (some "TABLE", behind t ts) := by
  have hkind : isKind creatableKinds t = true := by
    rw [isKind, ht.kind]
    decide
  rw [createdKind, run_bind (by rw [run_takeIf_cons, if_pos hkind])]
  simp only [ht.caseless (by decide)]
  rfl

section Creation

variable (hinner : s.inner = nested s.dialect (k + 1)) (hname : IsPlain d name)

/-- Nothing stands between the name of a table and its lines. -/
theorem run_earlyProperty_none {columns : ColumnList} {n : Nested} (ho : o.shape = .opening) :
    (earlyProperty d n columns).run (behind l (o :: ts)) = .ok (none, behind l (o :: ts)) := by
  have hois : o.Is (.mark "(") "(" := Token.is_iff_shape.mpr ho
  have hhead : ∀ u ∈ (o :: ts).head?, o = u := by simp
  have hreads (w : String) (hw : w ≠ "(") : (word w).run (behind l (o :: ts)) =
      .ok (false, behind l (o :: ts)) :=
    run_wordsFrom_of_none fun u hu => by
      rw [← hhead u hu, hois.reads (by decide) (by decide)]
      simpa using hw.symm
  have hcomma : (mark ",").run (behind l (o :: ts)) = .ok (false, behind l (o :: ts)) :=
    run_skipIf_of_none fun u hu => by simp [← hhead u hu, Token.isMark_eq, hois.kind]
  have hproperty : (oneOf (propertyWords d)).run (behind l (o :: ts)) =
      .ok (none, behind l (o :: ts)) := by
    refine run_oneOf_of_none fun u hu => ?_
    rw [← hhead u hu, hois.caseless (by decide)]
    cases d <;> decide
  rw [earlyProperty, run_bind hcomma, run_bind (hreads "NO" (by decide)),
    run_bind (hreads "DEFAULT" (by decide)), run_bind hproperty]
  rfl

/-- What stands in front of the lines is stepped over. -/
theorem run_storedDefinition_front {α : Type} (ht : t.Is .word name) (ho : o.shape = .opening) {f : TableName → Reader α} :
    (do
      let i ← tableName
      let _ ← mark ","
      let _ ← many (earlyProperty s.dialect s.inner s.columns)
      f i).run (behind l (t :: o :: ts)) = (f (tableNamed name)).run (behind t (o :: ts)) := by
  have hois : o.Is (.mark "(") "(" := Token.is_iff_shape.mpr ho
  have hpoint : ∀ u ∈ (o :: ts).head?, u.isMark "." = false ∧ u.isMark "," = false := by
    simp [Token.isMark_eq, hois.kind]
  rw [run_bind (run_tableName ht fun u hu => (hpoint u hu).1), mark,
    run_bind (run_skipIf_of_none fun u hu => (hpoint u hu).2),
    run_bind (run_many_none (run_earlyProperty_none ho))]

/-- No index follows where no token is left. -/
theorem run_innerIndexes_end :
    (many do
      match ← innerIndex s with
      | none => return none
      | some _ =>
        let _ ← properties s.dialect s.inner s.columns
        let _ ← mark ","
        return some () : Reader (List Unit)).run (behind l []) = .ok ([], behind l []) := by
  refine run_many_none ?_
  rw [run_bind run_innerIndex_end]
  rfl

include hinner

theorem run_storedDefinition (ht : t.Is .word name) (ho : o.shape = .opening)
    (hdefinition : (definition s.dialect s.inner s.columns).run (behind t (o :: ts)) =
      .ok (some (items, []), behind l' [])) :
    (storedDefinition s "TABLE").run (behind l (t :: o :: ts)) =
      .ok ((tableNamed name, items), behind l' []) := by
  have hkey : (nextIs fun t => t.isKeyword "SELECT" || t.isKeyword "WITH" || t.isMark "(").run
      (behind l' []) = .ok (false, behind l' []) := run_nextIs _
  rw [storedDefinition, run_storedDefinition_front ht ho, run_bind hdefinition,
    run_bind run_properties_end, keyword, run_bind (run_skipIf_nil _), run_bind hkey]
  simp only [Bool.not_false, if_true]
  rw [run_bind run_properties_end]
  have hsequence : ("TABLE" == "SEQUENCE") = false := by decide
  have htable : ("TABLE" == "TABLE") = true := by decide
  have hview : ("TABLE" == "VIEW") = false := by decide
  simp only [hsequence, htable, hview, Bool.false_eq_true, if_false, if_true]
  rw [run_bind (run_definingQuery_end hinner)]
  simp only [Bool.not_false, Bool.and_false, Bool.false_eq_true, if_false]
  rw [run_bind run_properties_end]
  exact run_bind run_innerIndexes_end _

omit hinner in
theorem storedDefinition_error {f : SyntaxFault} (ht : t.Is .word name) (ho : o.shape = .opening)
    (hdefinition : (definition s.dialect s.inner s.columns).run (behind t (o :: ts)) = .error f) :
    (storedDefinition s "TABLE").run (behind l (t :: o :: ts)) = .error f := by
  rw [storedDefinition, run_storedDefinition_front ht ho]
  exact run_bind_error hdefinition _

omit hinner in
/-- What stands between `CREATE` and the name of the table is stepped over. -/
theorem run_creation_front (hname : IsPlain s.dialect name) (hc : c.Is (.keyword "TABLE") "TABLE")
    (ht : t.Is .word name) {a : Except SyntaxFault ((TableName × List TableItem) × Cursor)}
    (hstored : (storedDefinition s "TABLE").run (behind c (t :: ts)) = a) :
    (creation s l).run (behind l (c :: t :: ts)) = a.bind fun x =>
      (do
        let ends ← nextIs fun t => t.isMark ")" || t.isMark ","
        if ends || (← atEnd) then return .createTable x.1.1 x.1.2
        asCommand s l : Reader Statement).run x.2 := by
  have hhead : ∀ u ∈ (t :: ts).head?, t = u := by simp
  have hkeyword (w : String) (hw : w ≠ "TABLE") : (keyword w).run (behind l (c :: t :: ts)) =
      .ok (false, behind l (c :: t :: ts)) := by
    rw [keyword, run_skipIf_cons, if_neg (by simpa [Token.isKeyword_eq, hc.kind] using hw.symm)]
  have hphrase : (phraseOf [["OR", "REPLACE"], ["OR", "ALTER"]]).run (behind l (c :: t :: ts)) =
      .ok (none, behind l (c :: t :: ts)) := by
    refine run_phraseOf_none (by decide) fun ws hws w hw u hu => ?_
    obtain rfl : c = u := by simpa using hu
    rw [hc.reads (by decide) (by decide)]
    revert w
    revert ws
    decide
  have hconcurrently : (word "CONCURRENTLY").run (behind c (t :: ts)) =
      .ok (false, behind c (t :: ts)) :=
    run_wordsFrom_of_none fun u hu => hhead u hu ▸ hname.reads_eq_false ht (by decide)
  have hexists : (existsClause true).run (behind c (t :: ts)) = .ok (false, behind c (t :: ts)) :=
    run_existsClause_none true fun u hu => hhead u hu ▸ hname.reads_eq_false ht (by decide)
  rw [creation, run_bind hphrase, run_bind (hkeyword "UNIQUE" (by decide)),
    run_bind (run_createdKind hc)]
  simp only []
  rw [run_bind hconcurrently, run_bind hexists]
  have hroutine : ("TABLE" == "FUNCTION" || "TABLE" == "PROCEDURE") = false := by decide
  have hindex : ("TABLE" == "INDEX") = false := by decide
  have hstores : storedKinds.contains "TABLE" = true := by decide
  have htable : ("TABLE" == "TABLE") = true := by decide
  simp only [hroutine, hindex, hstores, htable, Bool.false_eq_true, if_false, if_true]
  rw [bind_assoc]
  cases a with
  | error f => exact run_bind_error hstored _
  | ok x => exact run_bind hstored _

end Creation

/-! ### Statements -/

/-- A statement that starts with a word of its own is read by that word. -/
theorem run_statement {w : String} (hkind : t.kind = .keyword w)
    (hswallows : Lexer.swallows s.dialect t = false) {a : Except SyntaxFault (Statement × Cursor)}
    (h : (statementOf s t w).run (behind t ts) = a.map fun x => (some x.1, x.2)) :
    (statement s).run { rest := t :: ts } = a.map fun x => (some x.1, x.2) := by
  have hmark : t.isMark ";" = false := by simp [Token.isMark_eq, hkind]
  have hpeek : peek.run { rest := t :: ts } = .ok (some t, { rest := t :: ts }) := rfl
  have hnext : next.run { rest := t :: ts } = .ok (some t, behind t ts) := rfl
  rw [statement, run_bind hpeek]
  simp only [hmark, hswallows, hkind, Bool.false_eq_true, if_false]
  rw [run_bind run_get, run_bind hnext]
  cases a with
  | error f => exact run_bind_error h _
  | ok x => exact run_bind h _

/-- A chunk is a statement if the statement takes all of its tokens. -/
theorem statementOfChunk_eq {text : List Char} {a : Except SyntaxFault Statement} {l' : Token}
    (h : (statement (.ofSize d text us.length)).run { rest := us } =
      a.map fun x => (some x, behind l' [])) :
    statementOfChunk d text us = a.map some := by
  have hread {x : Except SyntaxFault (Option Statement × Cursor)}
      (hx : (do
        let found ← statement (.ofSize d text us.length)
        if ← atEnd then return found
        fault .leftover : Reader (Option Statement)).run { rest := us } = x) :
      statementOfChunk d text us = x.map Prod.fst := by
    rw [statementOfChunk]
    simp only [hx]
    cases x <;> rfl
  cases a with
  | error f => exact hread (run_bind_error h _)
  | ok x => exact hread (run_bind h _)

/-- A word with the tokens behind it; only the word may have comments. -/
def IsChunkOf (word : String) (body : List TokenShape) (us : List Token) : Prop :=
  ∃ t vs, us = t :: vs ∧ t.kind = .keyword word ∧ t.text = word ∧ vs.map Token.shape = body

namespace CreateTable

/-- The shapes behind the word `CREATE`. -/
def bodyShapes (x : CreateTable) : List TokenShape :=
  ⟨.keyword "TABLE", "TABLE", []⟩ :: ⟨.word, x.name, []⟩ :: Line.groupShapes x.first x.more

/-- The chunk of tokens of a table. -/
def IsChunk (x : CreateTable) (us : List Token) : Prop := IsChunkOf "CREATE" x.bodyShapes us

def IsRead (d : Dialect) (x : CreateTable) : Prop := ∀ y ∈ x.first :: x.more, y.IsRead d

def IsStuck (d : Dialect) (x : CreateTable) : Prop :=
  (∀ y ∈ x.first :: x.more, y.IsRead d ∨ y.IsStuck d) ∧ ∃ y ∈ x.first :: x.more, y.IsStuck d

/-- The statement that the table is read as. -/
def statement (d : Dialect) (x : CreateTable) : Statement :=
  .createTable (tableNamed x.name) ((x.first :: x.more).map (Line.item d))

/-- The creation of a table is read by its lines. -/
theorem statementOfChunk_of_definition {x : CreateTable} (hx : x.IsValid d) (hus : x.IsChunk us)
    (text : List Char) {p : Except SyntaxFault (List TableItem) → Prop}
    (h : ∀ (l : Token) (vs : List Token), vs.map Token.shape = Line.groupShapes x.first x.more →
      l.comments = [] → ∃ a l', p a ∧
        (definition d (Setting.ofSize d text us.length).inner (Setting.ofSize d text us.length).columns).run
          (behind l vs) = a.map fun items => (some (items, []), behind l' [])) :
    ∃ a, p a ∧ statementOfChunk d text us =
      a.map fun items => some (.createTable (tableNamed x.name) items) := by
  obtain ⟨t, vs, rfl, hkind, -, hvs⟩ := hus
  obtain ⟨c, vs, rfl, hc, hvs⟩ := List.map_eq_cons_iff.mp hvs
  obtain ⟨i, vs, rfl, hi, hvs⟩ := List.map_eq_cons_iff.mp hvs
  have hc : c.Is (.keyword "TABLE") "TABLE" := Token.is_iff_shape.mpr hc
  have hi : i.Is .word x.name := Token.is_iff_shape.mpr hi
  obtain ⟨a, l', ha, hdefinition⟩ := h i vs hvs hi.comments
  obtain ⟨o, vs, rfl, ho, -⟩ := List.map_eq_cons_iff.mp hvs
  have hswallows : Lexer.swallows d t = false := by
    rw [Lexer.swallows, hkind]
    cases d <;> decide
  have hinner : (Setting.ofSize d text (t :: c :: i :: o :: vs).length).inner =
      nested d ((t :: c :: i :: o :: vs).length + 2) := rfl
  have hstored : (storedDefinition (.ofSize d text (t :: c :: i :: o :: vs).length) "TABLE").run
      (behind c (i :: o :: vs)) = a.map fun items => ((tableNamed x.name, items), behind l' []) := by
    cases a with
    | error f => exact storedDefinition_error hi ho hdefinition
    | ok items => exact run_storedDefinition hinner hi ho hdefinition
  have hcreation : (creation (.ofSize d text (t :: c :: i :: o :: vs).length) t).run
      (behind t (c :: i :: o :: vs)) =
        a.map fun items => (.createTable (tableNamed x.name) items, behind l' []) := by
    rw [run_creation_front hx.1 hc hi hstored]
    cases a <;> rfl
  have hstatement : (Grammar.statement (.ofSize d text (t :: c :: i :: o :: vs).length)).run
      { rest := t :: c :: i :: o :: vs } = (a.map fun items =>
        (Statement.createTable (tableNamed x.name) items, behind l' [])).map fun x => (some x.1, x.2) := by
    refine run_statement hkind hswallows ?_
    show StateT.run (some <$> creation _ t) _ = _
    rw [StateT.run_map, hcreation]
    cases a <;> rfl
  have hmap : (Grammar.statement (.ofSize d text (t :: c :: i :: o :: vs).length)).run
      { rest := t :: c :: i :: o :: vs } =
        (a.map fun items => Statement.createTable (tableNamed x.name) items).map
          fun x => (some x, behind l' []) := by
    rw [hstatement]
    cases a <;> rfl
  refine ⟨a, ha, (statementOfChunk_eq hmap).trans ?_⟩
  cases a <;> rfl

/-- A table is read if all its lines are. -/
theorem statementOfChunk_read {x : CreateTable} (hx : x.IsValid d) (hread : x.IsRead d)
    (hus : x.IsChunk us) (text : List Char) :
    statementOfChunk d text us = .ok (some (x.statement d)) := by
  obtain ⟨a, rfl, hchunk⟩ := statementOfChunk_of_definition hx hus text
    (p := (· = .ok ((x.first :: x.more).map (Line.item d)))) fun l vs hvs hl => by
      have htakes := @Line.takes_definition d (nested d (us.length + 2)) vs [] x.first x.more us.length
        (us.length + 1) hx.2 hread hvs
      obtain ⟨l', -, hrun⟩ := htakes l hl
      rw [List.append_nil] at hrun
      exact ⟨_, l', rfl, hrun⟩
  exact hchunk

/-- A table with a line that is not read as a whole is a fault. -/
theorem statementOfChunk_stuck {x : CreateTable} (hx : x.IsValid d) (hstuck : x.IsStuck d)
    (hus : x.IsChunk us) (text : List Char) : ∃ f, statementOfChunk d text us = .error f := by
  obtain ⟨-, ⟨f, rfl⟩, hchunk⟩ := statementOfChunk_of_definition hx hus text
    (p := fun a => ∃ f, a = .error f) fun l vs hvs _ => by
      obtain ⟨f, hrun⟩ := @Line.definition_stuck d (nested d (us.length + 2)) l vs [] x.first x.more
        us.length (us.length + 1) hx.2 hstuck.1 hstuck.2 hvs
      rw [List.append_nil] at hrun
      exact ⟨_, l, ⟨f, rfl⟩, hrun⟩
  exact ⟨f, hchunk⟩

end CreateTable

end SchemaDesk.Ddl
