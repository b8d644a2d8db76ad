import SchemaDesk.Proofs.Ddl.KeyReading
/-!
How the grammar reads the statement that adds a foreign key to a table.
-/

namespace SchemaDesk.Ddl

open Sql Sql.Reader Sql.Grammar Sql.Cursor
open Line (wordShape)

namespace AddKey

variable {d : Dialect} {n : Nested} {columns : ColumnList} {l : Token} {us : List Token}

/-- The rule with its name. -/
def ruleShapes (k : AddKey) : List TokenShape :=
  ⟨.keyword "CONSTRAINT", "CONSTRAINT", []⟩ :: wordShape k.constraintName ::
    ⟨.keyword "FOREIGN KEY", "FOREIGN KEY", []⟩ :: k.keyShapes

def items (k : AddKey) : List TableItem :=
  [.rule (some { text := k.constraintName }) (.foreignKey k.clause)]

/-- A reader that takes everything that is left is not repeated. -/
theorem run_many_one {α : Type} {r : Reader (Option α)} {a : α} {l' : Token}
    (h : r.run (behind l us) = .ok (some a, behind l' []))
    (hend : r.run (behind l' []) = .ok (none, behind l' [])) :
    (many r).run (behind l us) = .ok ([a], behind l' []) := by
  rw [many, run_bind run_remaining, repeatFor, run_bind h]
  simp only []
  rw [run_bind (run_repeatFor_none hend _)]
  rfl

/-- Nothing is a rule at the end of a statement. -/
theorem run_unnamedRule_end {starts : List String} :
    (unnamedRule d n columns starts).run (behind l []) = .ok (none, behind l []) := by
  rw [unnamedRule, run_bind (run_nextIs _)]
  simp only [List.head?_nil, Option.map_none, Option.getD_none, Bool.false_eq_true, if_false]
  rw [run_bind run_get, run_bind (run_oneOf_of_none (by simp))]
  rfl

theorem takes_tableRules (m j : Nat) {k : AddKey} (hcolumn : IsPlain d k.targetColumn)
    (hus : us.map Token.shape = k.ruleShapes) :
    Takes (tableRules d (nested d (m + 1)) (columnGroup d (nested d (m + 1)) (j + 1))) us []
      (some k.items) := by
  obtain ⟨c, us, rfl, hc, hus⟩ := List.map_eq_cons_iff.mp hus
  obtain ⟨i, us, rfl, hi, hus⟩ := List.map_eq_cons_iff.mp hus
  obtain ⟨f, us, rfl, hf, hus⟩ := List.map_eq_cons_iff.mp hus
  have hc : c.Is (.keyword "CONSTRAINT") "CONSTRAINT" := Token.is_iff_shape.mpr hc
  have hi : i.Is .word k.constraintName := Token.is_iff_shape.mpr hi
  have hf : f.Is (.keyword "FOREIGN KEY") "FOREIGN KEY" := Token.is_iff_shape.mpr hf
  intro l _
  obtain ⟨l', hl', hkey⟩ := takes_foreignKey m j hcolumn hus f hf.comments
  rw [List.append_nil] at hkey
  have hword : (oneOf (ruleWords d)).run (behind i (f :: us)) = .ok (some "FOREIGN KEY", behind f us) := by
    have hcaseless : f.caseless = "FOREIGN KEY" := hf.caseless (by decide)
    have htake : (f.kind != .text && (ruleWords d).contains f.caseless) = true := by
      rw [hcaseless, hf.kind]
      cases d <;> decide
    rw [oneOf, run_bind (by rw [run_takeIf_cons, if_pos htake])]
    simp only [hcaseless]
    rfl
  have hrule : (unnamedRule d (nested d (m + 1)) (columnGroup d (nested d (m + 1)) (j + 1))
      (ruleWords d)).run (behind i (f :: us)) = .ok (some (.foreignKey k.clause), behind l' []) := by
    have hruleOf : (ruleOf d (nested d (m + 1)) (columnGroup d (nested d (m + 1)) (j + 1))
        "FOREIGN KEY").run (behind f us) = .ok (some (.foreignKey k.clause), behind l' []) := by
      show StateT.run (foreignKey _ >>= _) (behind f us) = _
      rw [run_bind hkey]
      rfl
    rw [unnamedRule, run_bind (run_nextIs _)]
    simp only [List.head?_cons, Option.map_some, Option.getD_some, hf.kind]
    rw [if_neg (by decide), run_bind run_get, run_bind hword]
    simp only []
    rw [run_bind hruleOf]
    rfl
  refine ⟨l', hl', ?_⟩
  rw [List.append_nil, tableRules, keyword,
    run_bind (by rw [run_skipIf_cons, if_pos (by simp [Token.isKeyword_eq, hc.kind])])]
  simp only [if_true]
  rw [run_bind (run_anyName hi), run_bind (run_many_one (run_bind hrule _) ?_)]
  · rfl
  · rw [run_bind run_unnamedRule_end]
    simp only []
    rw [run_bind (run_call_none (by simp))]
    rfl

/-- The whole statement without its first word. -/
def bodyShapes (k : AddKey) : List TokenShape :=
  ⟨.keyword "TABLE", "TABLE", []⟩ :: wordShape k.table :: wordShape "ADD" :: k.ruleShapes

/-- The statement that the foreign key is read as. -/
def statement (k : AddKey) : Statement :=
  .alter (some (tableNamed k.table)) [(some { text := k.constraintName }, k.clause)]

section Alteration

variable {s : Setting} {k : AddKey} {m j : Nat} (hinner : s.inner = nested s.dialect (m + 1))
  (hcolumns : s.columns = columnGroup s.dialect s.inner (j + 1)) (hcolumn : IsPlain s.dialect k.targetColumn)

include hinner hcolumns hcolumn

/-- Only one item is added. -/
theorem run_addedItems (hus : us.map Token.shape = k.ruleShapes) (hl : l.comments = []) :
    ∃ l', l'.comments = [] ∧ (Reader.items (addedItem s)).run (behind l us) = .ok ([k.items], behind l' []) := by
  obtain ⟨l', hl', hrules⟩ := takes_tableRules m j hcolumn hus l hl
  rw [List.append_nil, ← hinner, ← hcolumns] at hrules
  obtain ⟨c, us, rfl, hc, -⟩ := List.map_eq_cons_iff.mp hus
  have hc : c.Is (.keyword "CONSTRAINT") "CONSTRAINT" := Token.is_iff_shape.mpr hc
  have hadd : (word "ADD").run (behind l (c :: us)) = .ok (false, behind l (c :: us)) :=
    run_wordsFrom_of_none fun u hu => by
      obtain rfl : c = u := by simpa using hu
      rw [hc.reads (by decide) (by decide)]
      decide
  have hrule : (nextIs (isKind addedRuleWords)).run (behind l (c :: us)) =
      .ok (true, behind l (c :: us)) := by
    rw [run_nextIs, List.head?_cons, Option.map_some, Option.getD_some, isKind, hc.kind]
    rfl
  have hitem : (addedItem s).run (behind l (c :: us)) = .ok (some k.items, behind l' []) := by
    rw [addedItem, run_bind hadd, run_bind hrule]
    simp only [if_true]
    exact hrules
  refine ⟨l', hl', ?_⟩
  rw [Reader.items, run_bind hitem, run_bind run_remaining]
  exact run_moreItems_end (by simp) _ _

theorem run_alteration (htable : IsPlain s.dialect k.table) (hus : us.map Token.shape = k.bodyShapes) :
    ∃ l', (alteration s l).run (behind l us) = .ok (k.statement, behind l' []) := by
  obtain ⟨c, us, rfl, hc, hus⟩ := List.map_eq_cons_iff.mp hus
  obtain ⟨i, us, rfl, hi, hus⟩ := List.map_eq_cons_iff.mp hus
  obtain ⟨a, us, rfl, ha, hus⟩ := List.map_eq_cons_iff.mp hus
  have hc : c.Is (.keyword "TABLE") "TABLE" := Token.is_iff_shape.mpr hc
  have hi : i.Is .word k.table := Token.is_iff_shape.mpr hi
  have ha : a.Is .word "ADD" := Token.is_iff_shape.mpr ha
  obtain ⟨l', hl', hitems⟩ := run_addedItems hinner hcolumns hcolumn hus ha.comments
  have hkind : (takeIf (isKind ["INDEX", "TABLE", "VIEW", "SESSION"])).run (behind l (c :: i :: a :: us)) =
      .ok (some c, behind c (i :: a :: us)) := by
    rw [run_takeIf_cons, if_pos (by rw [isKind, hc.kind]; decide)]
  have hexists : (existsClause false).run (behind c (i :: a :: us)) = .ok (false, behind c (i :: a :: us)) :=
    run_existsClause_none false fun u hu => by
      obtain rfl : i = u := by simpa using hu
      exact htable.reads_eq_false hi (by decide)
  have honly : (word "ONLY").run (behind c (i :: a :: us)) = .ok (false, behind c (i :: a :: us)) :=
    run_wordsFrom_of_none fun u hu => by
      obtain rfl : i = u := by simpa using hu
      exact htable.reads_eq_false hi (by decide)
  have hmark (w : String) : ∀ u ∈ (a :: us).head?, u.isMark w = false := by
    simp [Token.isMark_eq, ha.kind]
  have hgroup : (tableWithColumns s.columns).run (behind c (i :: a :: us)) =
      .ok ((tableNamed k.table, { columns := [] }), behind i (a :: us)) := by
    rw [hcolumns, tableWithColumns, run_bind (run_tableName hi (hmark ".")),
      run_bind (run_columnGroup_none j (hmark "("))]
    rfl
  have hwith : (words ["WITH", "CHECK"]).run (behind i (a :: us)) = .ok (false, behind i (a :: us)) :=
    run_wordsFrom_of_none fun u hu => by
      obtain rfl : a = u := by simpa using hu
      rw [ha.reads (by decide) (by decide)]
      decide
  have hon : (keyword "ON").run (behind i (a :: us)) = .ok (false, behind i (a :: us)) :=
    run_skipIf_of_none (by simp [Token.isKeyword_eq, ha.kind])
  have hsecond : peekSecond.run (behind i (a :: us)) = .ok (us.head?, behind i (a :: us)) := rfl
  have hsome : us.head?.isSome = true := by
    obtain ⟨u, us, rfl, -⟩ := List.map_eq_cons_iff.mp hus
    rfl
  have hproperties : (Reader.items (property s.dialect s.inner s.columns)).run (behind l' []) =
      .ok ([], behind l' []) := by
    rw [Reader.items, run_bind run_property_end, run_bind run_remaining]
    exact run_moreItems_end (by simp) _ _
  have halteration : (alterationOf s a).run (behind a us) = .ok (some k.items, behind l' []) := by
    have hcaseless : a.caseless = "ADD" := ha.caseless (by decide)
    rw [alterationOf, hcaseless]
    show StateT.run (Reader.items (addedItem s) >>= _) (behind a us) = _
    rw [run_bind hitems]
    rfl
  refine ⟨l', ?_⟩
  rw [alteration, run_bind hkind]
  simp only []
  rw [run_bind hexists, run_bind honly]
  have hsession : c.isKeyword "SESSION" = false := by simp [Token.isKeyword_eq, hc.kind]
  simp only [hsession, Bool.false_eq_true, if_false]
  refine (run_bind (?_ : _ = Except.ok (some (tableNamed k.table), behind a us)) _).trans ?_
  · rw [run_bind hgroup]
    simp only []
    rw [run_bind hwith, run_bind hon]
    simp only [Bool.false_eq_true, if_false]
    rw [run_bind hsecond]
    simp only [hsome, if_true]
    rfl
  rw [run_bind run_last]
  simp only []
  rw [run_bind halteration]
  simp only []
  rw [run_bind (run_wordsFrom_of_none (by simp)), run_bind hproperties, run_bind run_atEnd]
  rfl

end Alteration

/-- The chunk of tokens of a foreign key. -/
def IsChunk (k : AddKey) (us : List Token) : Prop := IsChunkOf "ALTER" k.bodyShapes us

/-- A foreign key is read with all its parts. -/
theorem statementOfChunk_read {k : AddKey} (hk : k.IsValid d) (hus : k.IsChunk us) (text : List Char) :
    statementOfChunk d text us = .ok (some k.statement) := by
  obtain ⟨t, vs, rfl, hkind, -, hvs⟩ := hus
  have hswallows : Lexer.swallows d t = false := by
    rw [Lexer.swallows, hkind]
    cases d <;> decide
  obtain ⟨l', hrun⟩ := @run_alteration t vs (Setting.ofSize d text (t :: vs).length) k _ _ rfl rfl
    (hk k.targetColumn (by simp)) (hk k.table (by simp)) hvs
  have hstatement : (Grammar.statement (.ofSize d text (t :: vs).length)).run { rest := t :: vs } =
      (Except.ok (k.statement, behind l' [])).map fun x => (some x.1, x.2) := by
    refine run_statement hkind hswallows ?_
    show StateT.run (some <$> alteration _ t) _ = _
    rw [StateT.run_map, hrun]
    rfl
  exact statementOfChunk_eq (a := .ok k.statement) hstatement

end AddKey

end SchemaDesk.Ddl
