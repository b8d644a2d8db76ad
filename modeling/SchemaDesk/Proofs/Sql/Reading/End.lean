import SchemaDesk.Proofs.Sql.Reading.Key
/-!
What the readers of statements do where no token is left.
-/

namespace SchemaDesk.Sql.Grammar

open Reader Cursor

variable {d : Dialect} {n : Nested} {columns : ColumnList} {l : Token}

/-- No option of a sequence is found. -/
theorem run_sequenceWords_end :
    (do
      match ← oneOf ["INCREMENT", "MINVALUE", "MAXVALUE", "START", "START WITH", "CACHE"] with
      | some _ =>
        let _ ← oneOf ["BY", "WITH"]
        let _ ← mark "="
        let _ ← n.sum
        return true
      | none =>
        if ← words ["OWNED", "BY"] then
          let _ ← n.value
          return true
        return (← phraseOf [["NO", "CYCLE"], ["NO", "CACHE"], ["NO", "MAXVALUE"], ["NO", "MINVALUE"],
          ["CYCLE"], ["NOCYCLE"], ["NOCACHE"], ["ORDER"], ["NOORDER"], ["SESSION"], ["GLOBAL"],
          ["KEEP"], ["NOKEEP"], ["NOMINVALUE"], ["NOMAXVALUE"]]).isSome : Reader Bool).run
      (behind l []) = .ok (false, behind l []) := by
  have hwords (w : String) (ws : List String) : (words (w :: ws)).run (behind l []) =
      .ok (false, behind l []) :=
    run_wordsFrom_of_none (by simp)
  have hphrases : (phraseOf [["NO", "CYCLE"], ["NO", "CACHE"], ["NO", "MAXVALUE"], ["NO", "MINVALUE"],
      ["CYCLE"], ["NOCYCLE"], ["NOCACHE"], ["ORDER"], ["NOORDER"], ["SESSION"], ["GLOBAL"],
      ["KEEP"], ["NOKEEP"], ["NOMINVALUE"], ["NOMAXVALUE"]]).run (behind l []) =
        .ok (none, behind l []) :=
    run_phraseOf_none (by decide) (by simp)
  rw [run_bind (run_oneOf_of_none (by simp))]
  simp only []
  rw [run_bind (hwords "OWNED" ["BY"])]
  simp only [Bool.false_eq_true, if_false]
  rw [run_bind hphrases]
  rfl

theorem run_sequenceOption_end :
    (sequenceOption n).run (behind l []) = .ok (none, behind l []) := by
  rw [sequenceOption, mark, run_bind (run_skipIf_nil _)]
  exact run_bind run_sequenceWords_end _

theorem run_property_end : (property d n columns).run (behind l []) = .ok (none, behind l []) := by
  have hsecurity : (words ["SQL", "SECURITY"]).run (behind l []) = .ok (false, behind l []) :=
    run_wordsFrom_of_none (by simp)
  rw [property, run_bind (run_oneOf_of_none (by simp))]
  simp only []
  rw [run_bind run_get, keyword, run_bind (run_skipIf_nil _)]
  simp only [Bool.false_eq_true, if_false]
  rw [run_bind hsecurity]
  simp only [Bool.false_eq_true, if_false]
  rw [run_bind run_sequenceOption_end]
  simp only []
  rw [run_bind (run_column_none (by simp)), mark, run_bind (run_skipIf_nil _)]
  simp only [Bool.false_eq_true, if_false]
  rw [run_bind run_backTo_self]
  rfl

theorem run_properties_end : (properties d n columns).run (behind l []) = .ok (0, behind l []) := by
  rw [properties, run_bind (run_many_none run_property_end)]
  rfl

theorem run_operandQuery_end : (operandQuery d n).run (behind l []) = .ok (none, behind l []) := by
  have hvalues : (nextIsKeyword "VALUES" <&&> secondIs (·.isMark "(")).run (behind l []) =
      .ok (false, behind l []) := by
    rw [nextIsKeyword, run_andM (run_nextIs _)]
    rfl
  rw [operandQuery, keyword, run_bind (run_skipIf_nil _)]
  simp only [Bool.false_eq_true, if_false]
  rw [run_bind hvalues]
  simp only [Bool.false_eq_true, if_false]
  rw [mark, run_bind (run_skipIf_nil _)]
  rfl

theorem run_query_end : (query d n).run (behind l []) = .ok (none, behind l []) := by
  have hnamed : (do
      if ← keyword "WITH" then some <$> namedQueries d n (required (orElse (named d n) n.query))
      else return none : Reader (Option Expr)).run (behind l []) = .ok (none, behind l []) := by
    rw [keyword, run_bind (run_skipIf_nil _)]
    rfl
  rw [query, run_bind run_get, run_bind hnamed]
  simp only []
  rw [nextIsMark, run_bind (run_nextIs _)]
  simp only [List.head?_nil, Option.map_none, Option.getD_none, Bool.false_eq_true, if_false]
  rw [run_bind run_operandQuery_end]
  rfl

variable {s : Setting} {k : Nat}

theorem run_definingQuery_end (hinner : s.inner = nested s.dialect (k + 1)) :
    (definingQuery s).run (behind l []) = .ok (false, behind l []) := by
  have hquery : s.inner.query.run (behind l []) = .ok (none, behind l []) := by
    rw [hinner]
    exact run_query_end
  rw [definingQuery, run_bind ((run_orElse_none hquery).trans run_operandQuery_end)]
  rfl

theorem run_innerIndex_end : (innerIndex s).run (behind l []) = .ok (none, behind l []) := by
  have hword (w : String) : (word w).run (behind l []) = .ok (false, behind l []) :=
    run_wordsFrom_of_none (by simp)
  rw [innerIndex, keyword, run_bind (run_skipIf_nil _), run_bind (hword "PRIMARY"),
    run_bind (hword "AMP"), keyword, run_bind (run_skipIf_nil _)]
  rfl

end SchemaDesk.Sql.Grammar
