import SchemaDesk.Proofs.Sql.Reading.Name
/-!
How keys without options are read, in front of what is no option.
-/

namespace SchemaDesk.Sql.Grammar

open Reader Cursor

variable {d : Dialect} {n : Nested} {columns : ColumnList} {l t : Token} {ts : List Token}

theorem run_phraseOf_none {wss : List (List String)} (hne : ∀ ws ∈ wss, ws ≠ [])
    (h : ∀ ws ∈ wss, ∀ w ∈ ws.head?, ∀ t ∈ ts.head?, t.reads w = false) :
    (phraseOf wss).run (behind l ts) = .ok (none, behind l ts) := by
  induction wss with
  | nil => rfl
  | cons ws wss ih =>
    obtain - | ⟨w, ws⟩ := ws
    · exact (hne [] (by simp) rfl).elim
    · rw [phraseOf, run_bind (run_wordsFrom_of_none (h (w :: ws) (by simp) w (by simp)))]
      exact ih (fun ws hws => hne ws (by simp [hws])) fun ws hws => h ws (by simp [hws])

/-- A word or a mark that starts no option of a key, and no columns. -/
structure NoOption (t : Token) : Prop where
  event : t.isKeyword "ON" = false
  words : ∀ ws ∈ keyOptionWords, ∀ w ∈ ws.head?, t.reads w = false
  opening : t.isMark "(" = false

theorem noOption_of_follows (h : t.Follows) (hnot : t.kind ≠ .keyword "NOT") : NoOption t := by
  refine ⟨h.isKeyword_eq_false (by decide), fun ws hws w hw => ?_, h.isMark_eq_false (by decide)⟩
  obtain ⟨x, hx, ht⟩ := h
  have hwords : ∀ x ∈ Token.followers, x.1 ≠ .keyword "NOT" →
      ∀ ws ∈ keyOptionWords, ∀ w ∈ ws.head?, x.2 ≠ w := by decide
  have hcapital : ∀ x ∈ Token.followers, x.2 ∈ Token.capitals := by decide
  have hne := hwords x hx (ht.kind ▸ hnot) ws hws w hw
  simp [Token.reads_eq, ht.caseless (hcapital x hx), hne]

theorem run_keyOption_none (h : ∀ t ∈ ts.head?, NoOption t) :
    keyOption.run (behind l ts) = .ok (none, behind l ts) := by
  rw [keyOption, keyword, run_bind (run_skipIf_of_none fun t ht => (h t ht).event)]
  exact run_phraseOf_none (by decide) fun ws hws w hw t ht => (h t ht).words ws hws w hw

theorem run_keyOptions_none (h : ∀ t ∈ ts.head?, NoOption t) :
    keyOptions.run (behind l ts) = .ok ([], behind l ts) := by
  rw [keyOptions, run_bind (run_many_none (run_keyOption_none h)), run_bind run_atEnd]
  cases ts <;> rfl

/-- No list of columns starts where no parenthesis opens. -/
theorem run_columnGroup_none (k : Nat) (h : ∀ t ∈ ts.head?, t.isMark "(" = false) :
    (columnGroup d n (k + 1)).run (behind l ts) = .ok (none, behind l ts) := by
  have hdefinition : (definition d n (columnGroup d n k)).run (behind l ts) =
      .ok (none, behind l ts) := by
    rw [definition, run_bind run_get, mark, run_bind (run_skipIf_of_none h)]
    rfl
  rw [columnGroup, run_bind hdefinition]
  rfl

theorem run_primaryKey (h : FollowedBy ts) (hnot : ∀ t ∈ ts.head?, t.kind ≠ .keyword "NOT") :
    (primaryKey d n).run (behind l ts) = .ok (.primaryKey, behind l ts) := by
  have horder : (orElse (takeIf (·.isKeyword "ASC")) (takeIf (·.isKeyword "DESC"))).run (behind l ts) =
      .ok (none, behind l ts) := by
    rw [run_orElse_none (run_takeIf_of_none fun t ht => (h t ht).isKeyword_eq_false (by decide))]
    exact run_takeIf_of_none fun t ht => (h t ht).isKeyword_eq_false (by decide)
  rw [primaryKey, run_bind horder, nextIsMark,
    run_bind (run_nextIs_of_none fun t ht => (h t ht).isMark_eq_false (by decide))]
  simp only [Bool.not_false, if_true]
  rw [run_bind (run_keyOptions_none fun t ht => noOption_of_follows (h t ht) (hnot t ht))]
  rfl

theorem run_autoIncrement (h : FollowedBy ts) :
    (autoIncrement n).run (behind l ts) = .ok (.autoIncrement, behind l ts) := by
  rw [autoIncrement, nextIsMark,
    run_bind (run_nextIs_of_none fun t ht => (h t ht).isMark_eq_false (by decide))]
  simp only [Bool.false_eq_true, if_false]
  rw [run_bind (h.run_word (by decide))]
  rfl

/-- A unique key with its name, in front of what is no option. -/
theorem run_uniqueKey (k : Nat) {l' : Token} {ts' : List Token} {i : Option Ident}
    (hwords : ∀ t ∈ ts.head?, ∀ w ∈ ["KEY", "INDEX", "NULLS"], t.reads w = false)
    (hname : (if d == .postgresql then pure none else name : Reader (Option Ident)).run (behind l ts) =
      .ok (i, behind l' ts'))
    (h : ∀ t ∈ ts'.head?, NoOption t) (husing : ∀ t ∈ ts'.head?, t.isKeyword "USING" = false)
    (hon : ∀ t ∈ ts'.head?, t.reads "ON" = false) :
    (uniqueKey d (columnGroup d n (k + 1)) false).run (behind l ts) =
      .ok (.unique i none, behind l' ts') := by
  have hindex : (oneOf ["KEY", "INDEX"]).run (behind l ts) = .ok (none, behind l ts) := by
    rw [oneOf, run_bind (run_takeIf_of_none fun t ht => ?_)]
    · rfl
    · have hkey := hwords t ht "KEY" (by decide)
      have hindex := hwords t ht "INDEX" (by decide)
      rw [Token.reads_eq] at hkey hindex
      rw [List.contains_cons, List.contains_cons, List.contains_nil, Bool.or_false,
        Bool.and_or_distrib_left, hkey, hindex]
      rfl
  have hconflict : onConflict.run (behind l' ts') = .ok ((), behind l' ts') := by
    rw [onConflict, run_bind (run_wordsFrom_of_none hon)]
    rfl
  rw [uniqueKey]
  simp only [Bool.false_eq_true, if_false]
  rw [run_bind hindex, run_bind (run_wordsFrom_of_none fun t ht => hwords t ht "NULLS" (by decide)),
    run_bind hname, run_bind (run_columnGroup_none k fun t ht => (h t ht).opening), keyword,
    run_bind (run_skipIf_of_none husing)]
  simp only [Bool.false_eq_true, if_false]
  rw [run_bind hconflict, run_bind (run_keyOptions_none h)]
  rfl

end SchemaDesk.Sql.Grammar
