import SchemaDesk.Proofs.Sql.Reading.Value
import SchemaDesk.Sql.Grammar.Expression
/-!
Sums that consist of a single value, with a sign at most.
-/

namespace SchemaDesk.Sql.Grammar

open Reader Cursor

variable {d : Dialect} {n : Nested} {l t : Token} {ts : List Token}

theorem run_required {α : Type} {r : Reader (Option α)} {a : α} {c c' : Cursor}
    (h : r.run c = .ok (some a, c')) : (required r).run c = .ok (a, c') := by
  rw [required, run_bind h]
  rfl

/-- The token is no operator in front of an operand. -/
structure NoPrefix (t : Token) : Prop where
  marks : ∀ m ∈ ["+", "-", "~", "|/", "||/"], t.isMark m = false
  negation : t.isKeyword "NOT" = false
  inversion : t.isKeyword "RLIKE" = false

theorem run_operand {e : Expr} (ht : NoPrefix t)
    (hvalue : (value d n).run (behind l (t :: ts)) = .ok (some e, behind t ts)) (h : FollowedBy ts) :
    (operand d n).run (behind l (t :: ts)) = .ok (some e, behind t ts) := by
  have hmark (m : String) (hm : m ∈ ["+", "-", "~", "|/", "||/"]) :
      (mark m).run (behind l (t :: ts)) = .ok (false, behind l (t :: ts)) := by
    rw [mark, run_skipIf_cons, if_neg (by simp [ht.marks m hm])]
  have hnot : (keyword "NOT").run (behind l (t :: ts)) = .ok (false, behind l (t :: ts)) := by
    rw [keyword, run_skipIf_cons, if_neg (by simp [ht.negation])]
  have hinversion : (pure (d == .postgresql) <&&> keyword "RLIKE" : Reader Bool).run (behind l (t :: ts)) =
      .ok (false, behind l (t :: ts)) := by
    rw [run_andM rfl, keyword, run_skipIf_cons]
    cases d <;> simp [ht.inversion]
  rw [operand, run_bind (hmark "+" (by decide))]
  simp only [Bool.false_eq_true, if_false]
  rw [run_bind hnot]
  simp only [Bool.false_eq_true, if_false]
  rw [run_bind (hmark "-" (by decide))]
  simp only [Bool.false_eq_true, if_false]
  rw [run_bind (hmark "~" (by decide))]
  simp only [Bool.false_eq_true, if_false]
  rw [run_bind hinversion]
  simp only [Bool.false_eq_true, if_false]
  rw [run_bind (hmark "|/" (by decide))]
  simp only [Bool.false_eq_true, if_false]
  rw [run_bind (hmark "||/" (by decide))]
  simp only [Bool.false_eq_true, if_false]
  rw [zoned, run_bind hvalue]
  simp only [StateT.run_map]
  rw [run_extend_none]
  · rfl
  · rw [run_bind (h.run_words (by decide))]
    rfl

theorem run_chain {r : Reader (Option Expr)} {operator? : Token → Option Operator} {c : Cursor} {e : Expr}
    (hr : r.run c = .ok (some e, behind l ts)) (hnone : ts.head?.bind operator? = none) :
    (chain r operator?).run c = .ok (some e, behind l ts) := by
  rw [chain, run_bind hr]
  simp only [StateT.run_map]
  rw [run_extend_none]
  · rfl
  · rw [run_bind run_peek, hnone]
    rfl

/-- No follower is an operator. -/
theorem markOperator_eq_none {t : Token} (h : t.Follows) {marks : List (String × Operator)}
    (hmarks : marks.lookup "," = none ∧ marks.lookup ")" = none) : markOperator marks t = none := by
  obtain ⟨x, hx, ht⟩ := h
  simp only [Token.followers, List.mem_cons, List.not_mem_nil, or_false] at hx
  rcases hx with rfl | rfl | rfl | rfl | rfl | rfl | rfl | rfl <;>
    simp [markOperator, ht.kind, hmarks]

/-- No operator stands behind an operand that a follower ends. -/
theorem run_sum {c : Cursor} {e : Expr} (hoperand : (operand d n).run c = .ok (some e, behind l ts))
    (h : FollowedBy ts) : (sum d n).run c = .ok (some e, behind l ts) := by
  have hnone {operator? : Token → Option Operator} (ho : ∀ u, u.Follows → operator? u = none) :
      ts.head?.bind operator? = none := by
    cases ts with
    | nil => rfl
    | cons u ts => exact ho u (h u rfl)
  have hmarks (marks : List (String × Operator))
      (hm : marks.lookup "," = none ∧ marks.lookup ")" = none) :
      ts.head?.bind (markOperator marks) = none :=
    hnone fun u hu => markOperator_eq_none hu hm
  have hpower : (power d n).run c = .ok (some e, behind l ts) := by
    refine run_chain hoperand (hnone fun u hu => ?_)
    rw [markOperator_eq_none hu (by cases d <;> decide), ite_self]
  have hproduct : (product d n).run c = .ok (some e, behind l ts) := by
    refine run_chain hpower (hnone fun u hu => ?_)
    rw [hu.isKeyword_eq_false (by decide), markOperator_eq_none hu (by decide)]
    rfl
  have hterm : (term d n).run c = .ok (some e, behind l ts) := by
    rw [term, run_bind hproduct]
    simp only [StateT.run_map]
    rw [run_extend_none]
    · rfl
    · rw [nextIsKeyword, run_bind (run_nextIs_of_none fun u hu => (h u hu).isKeyword_eq_false (by decide)),
        run_bind run_peek, hmarks _ (by decide)]
      rfl
  have hshift : shift.run (behind l ts) = .ok (none, behind l ts) := by
    rw [shift, run_bind (run_pair_of_none fun u hu => (h u hu).isMark_eq_false (by decide))]
    simp only [Bool.false_eq_true, if_false]
    rw [run_bind (run_pair_of_none fun u hu => (h u hu).isMark_eq_false (by decide))]
    rfl
  have hbits : (bitMarks d).lookup "," = none ∧ (bitMarks d).lookup ")" = none := by
    cases d <;> decide
  rw [sum, run_bind hterm]
  simp only [StateT.run_map]
  rw [run_extend_none]
  · rfl
  · rw [run_bind (h.run_mark (by decide))]
    simp only [Bool.false_eq_true, if_false]
    simp only [bind_assoc]
    rw [run_bind hshift]
    simp only [bind_assoc]
    rw [run_bind run_peek, hmarks _ hbits]
    rfl

theorem IsValue.run_sum {e : Expr} (ht : IsValue t e) (h : FollowedBy ts) :
    (sum d n).run (behind l (t :: ts)) = .ok (some e, behind t ts) := by
  refine Grammar.run_sum (run_operand ?_ (ht.run_value h) h) h
  cases ht with
  | number h | text h | yes h | no h | null h =>
    constructor <;> simp [Token.isMark_eq, Token.isKeyword_eq, h.kind]

theorem run_sum_now (ht : t.Is (.keyword "CURRENT_TIMESTAMP") "CURRENT_TIMESTAMP") (h : FollowedBy ts) :
    (sum d n).run (behind l (t :: ts)) = .ok (some (now d), behind t ts) := by
  refine Grammar.run_sum (run_operand ?_ (run_value_now ht h) h) h
  constructor <;> simp [Token.isMark_eq, Token.isKeyword_eq, ht.kind]

/-- A number with a minus sign in front of it. -/
theorem run_sum_negative {k : Nat} {m : Token} {s : String} (hm : m.Is (.mark "-") "-")
    (ht : t.Is .number s) (h : FollowedBy ts) :
    (sum d (nested d (k + 1))).run (behind l (m :: t :: ts)) =
      .ok (some (.unary "neg" "-" (.number s)), behind t ts) := by
  have hinner : (nested d (k + 1)).operand.run (behind m (t :: ts)) =
      .ok (some (.number s), behind t ts) := by
    refine run_operand ?_ ((IsValue.number ht).run_value h) h
    constructor <;> simp [Token.isMark_eq, Token.isKeyword_eq, ht.kind]
  refine run_sum ?_ h
  have hprefixed : (prefixed (nested d (k + 1)) "neg" "-").run (behind m (t :: ts)) =
      .ok (some (.unary "neg" "-" (.number s)), behind t ts) := by
    rw [prefixed, run_bind (run_required hinner)]
    simp [run_noted ht.comments]
  have hplus : (mark "+").run (behind l (m :: t :: ts)) = .ok (false, behind l (m :: t :: ts)) := by
    simp [mark, Token.isMark_eq, hm.kind]
  have hnot : (keyword "NOT").run (behind l (m :: t :: ts)) = .ok (false, behind l (m :: t :: ts)) := by
    simp [keyword, Token.isKeyword_eq, hm.kind]
  have hminus : (mark "-").run (behind l (m :: t :: ts)) = .ok (true, behind m (t :: ts)) := by
    simp [mark, Token.isMark_eq, hm.kind]
  rw [operand, run_bind hplus]
  simp only [Bool.false_eq_true, if_false]
  rw [run_bind hnot]
  simp only [Bool.false_eq_true, if_false]
  rw [run_bind hminus]
  simpa using hprefixed

end SchemaDesk.Sql.Grammar
