import SchemaDesk.Proofs.Sql.Reading.Items
import SchemaDesk.Proofs.Sql.Reading.Value
/-!
How a word that no list knows is read as a name or a column, and what is read as neither.
-/

namespace SchemaDesk.Sql.Grammar

open Reader Cursor

variable {d : Dialect} {n : Nested} {l t : Token} {s : String} {ts : List Token}

theorem run_nameAt (hl : l.comments = []) (quoted : Bool) :
    (nameAt l quoted).run (behind l ts) = .ok ({ text := l.text, quoted }, behind l ts) := by
  rw [nameAt, run_bind (run_takeComments hl)]
  rfl

theorem run_quotedName_none (h : ∀ t ∈ ts.head?, t.kind ≠ .quoted) :
    quotedName.run (behind l ts) = .ok (none, behind l ts) := by
  rw [quotedName, run_bind (run_takeIf_of_none fun t ht => by simpa using h t ht)]
  rfl

theorem run_nameAmong_none {admits : Token → Bool}
    (h : ∀ t ∈ ts.head?, t.kind ≠ .quoted ∧ admits t = false) :
    (nameAmong admits).run (behind l ts) = .ok (none, behind l ts) := by
  rw [nameAmong, run_bind (run_quotedName_none fun t ht => (h t ht).1)]
  simp only []
  rw [run_bind (run_takeIf_of_none fun t ht => (h t ht).2)]
  rfl

theorem run_nameAmong {admits : Token → Bool} (ht : t.comments = []) (hquoted : t.kind ≠ .quoted)
    (hadmits : admits t = true) :
    (nameAmong admits).run (behind l (t :: ts)) =
      .ok (some { text := t.text, quoted := t.kind == .text }, behind t ts) := by
  have hnone : quotedName.run (behind l (t :: ts)) = .ok (none, behind l (t :: ts)) :=
    run_quotedName_none (by simp [hquoted])
  rw [nameAmong, run_bind hnone]
  simp only []
  rw [run_bind (by rw [run_takeIf_cons, if_pos hadmits])]
  simp [run_nameAt ht]

/-- A word that no list knows is a name wherever its place admits it. -/
theorem run_nameAmong_word {admits : Token → Bool} (ht : t.Is .word s) (hadmits : admits t = true) :
    (nameAmong admits).run (behind l (t :: ts)) = .ok (some { text := s }, behind t ts) := by
  rw [run_nameAmong ht.comments (by simp [ht.kind]) hadmits, ht.text, ht.kind]
  rfl

theorem run_anyName (ht : t.Is .word s) :
    anyName.run (behind l (t :: ts)) = .ok (some { text := s }, behind t ts) :=
  run_nameAmong_word ht (by simp [isReserved, ht.kind])

theorem run_name (ht : t.Is .word s) :
    name.run (behind l (t :: ts)) = .ok (some { text := s }, behind t ts) :=
  run_nameAmong_word ht (by simp [isNameWord, ht.kind])

/-! ### What is no column -/

/-- The token starts no literal, no call and no name. -/
structure NoColumn (d : Dialect) (t : Token) : Prop extends NoPrimary t where
  worded : ∀ n, wordedValue? d n (Text.upper t.text) = none
  bare : Text.upper t.text ∉ Function.bareNames d
  function : isFunctionWord d t = false
  name : isNameWord t = false
  quoted : t.kind ≠ .quoted
  marks : ∀ m ∈ ["\x7b", "?", "@", "$", ":", "%", "["], t.isMark m = false
  values : t.isKeyword "VALUES" = false

theorem run_call_none (h : ∀ t ∈ ts.head?, NoColumn d t) :
    (call d n false false).run (behind l ts) = .ok (none, behind l ts) := by
  have hbraced : (pair (·.isMark "\x7b") (·.caseless == "FN")).run (behind l ts) =
      .ok (false, behind l ts) :=
    run_pair_of_none fun t ht => (h t ht).marks "\x7b" (by decide)
  have hplain : (plainCall d n false false).run (behind l ts) = .ok (none, behind l ts) := by
    rw [plainCall, run_bind run_peek]
    cases ts with
    | nil => rfl
    | cons t ts =>
      have ht := h t rfl
      simp only [List.head?_cons]
      rw [run_bind run_get]
      simp only [ht.worded, ite_self]
      rw [run_bind (run_secondIs _)]
      split
      · simp [ht.bare]
      · simp [ht.function]
  rw [call, run_bind hbraced, run_bind hplain]
  rfl

theorem run_parameter_none (h : ∀ t ∈ ts.head?, ∀ m ∈ ["?", "@", "$", ":", "%"], t.isMark m = false) :
    (parameter d).run (behind l ts) = .ok (none, behind l ts) := by
  have hmark (m : String) (hm : m ∈ ["?", "@", "$", ":", "%"]) :
      (mark m).run (behind l ts) = .ok (false, behind l ts) :=
    run_skipIf_of_none fun t ht => h t ht m hm
  have hnamed : (skipIf fun t => t.isMark "@" || t.isMark "$").run (behind l ts) =
      .ok (false, behind l ts) :=
    run_skipIf_of_none fun t ht => by
      rw [h t ht "@" (by decide), h t ht "$" (by decide)]
      rfl
  have hpercent : (pure (d == .postgresql) <&&> mark "%" : Reader Bool).run (behind l ts) =
      .ok (false, behind l ts) := by
    rw [run_andM rfl, hmark "%" (by decide)]
    cases d == .postgresql <;> rfl
  rw [parameter, run_bind run_get, run_bind (hmark "?" (by decide))]
  simp only [Bool.false_eq_true, if_false]
  rw [run_bind hnamed]
  simp only [Bool.false_eq_true, if_false]
  rw [run_bind (hmark ":" (by decide))]
  simp only [Bool.false_eq_true, if_false]
  rw [run_bind hpercent]
  rfl

theorem run_plainField_none (h : ∀ t ∈ ts.head?, NoColumn d t) :
    (plainField d n).run (behind l ts) = .ok (none, behind l ts) := by
  have hparameter : (parameter d).run (behind l ts) = .ok (none, behind l ts) :=
    run_parameter_none fun t ht m hm => (h t ht).marks m (by revert m; decide)
  have hname : name.run (behind l ts) = .ok (none, behind l ts) :=
    run_nameAmong_none fun t ht => ⟨(h t ht).quoted, (h t ht).name⟩
  rw [plainField, run_orElse_none (run_primary_none fun t ht => (h t ht).toNoPrimary),
    run_orElse_none (run_call_none h), nameValue, run_orElse_none hparameter, run_bind hname]
  rfl

theorem run_column_none (h : ∀ t ∈ ts.head?, NoColumn d t) :
    (column d n).run (behind l ts) = .ok (none, behind l ts) := by
  have hvalues : valuesName.run (behind l ts) = .ok (none, behind l ts) := by
    have hword : (nextIsKeyword "VALUES").run (behind l ts) = .ok (false, behind l ts) :=
      run_nextIs_of_none fun t ht => (h t ht).values
    rw [valuesName, run_bind (run_andM hword)]
    rfl
  have hreference : (reference d n).run (behind l ts) = .ok (none, behind l ts) := by
    rw [reference, run_bind ((run_orElse_none (run_plainField_none h)).trans hvalues)]
    rfl
  have hmark (m : String) (hm : m = "[" ∨ m = "\x7b") :
      (mark m).run (behind l ts) = .ok (false, behind l ts) := by
    refine run_skipIf_of_none fun t ht => ?_
    rcases hm with rfl | rfl
    · exact (h t ht).marks "[" (by decide)
    · exact (h t ht).marks "\x7b" (by decide)
  have hbracketed : (bracketed d n none).run (behind l ts) = .ok (none, behind l ts) := by
    rw [bracketed, run_bind (hmark "[" (Or.inl rfl))]
    rfl
  rw [column, run_bind hreference]
  simp only []
  rw [enclosed, run_orElse_none hbracketed, record, run_bind (hmark "\x7b" (Or.inr rfl))]
  rfl

end SchemaDesk.Sql.Grammar
