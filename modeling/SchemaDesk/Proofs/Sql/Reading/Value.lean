import SchemaDesk.Proofs.Sql.Reading.Follow
/-!
How values are read that are written with a token or two, and that a follower ends.
-/

namespace SchemaDesk.Sql.Grammar

open Reader Cursor

variable {d : Dialect} {n : Nested} {l t : Token} {ts : List Token}

/-- The token starts nothing that is an expression by itself. -/
structure NoPrimary (t : Token) : Prop where
  literal : literalOf? t = none
  introducer : t.isKeyword "INTRODUCER" = false
  parameter : t.isMark "@@" = false
  point : t.isMark "." = false
  opening : t.isMark "(" = false

theorem noPrimary_of_follows (h : t.Follows) : NoPrimary t := by
  refine ⟨?_, h.isKeyword_eq_false (by decide), h.isMark_eq_false (by decide),
    h.isMark_eq_false (by decide), h.isMark_eq_false (by decide)⟩
  obtain ⟨x, hx, ht⟩ := h
  simp only [Token.followers, List.mem_cons, List.not_mem_nil, or_false] at hx
  rcases hx with rfl | rfl | rfl | rfl | rfl | rfl | rfl | rfl <;> simp [literalOf?, ht.kind]

theorem run_literal_none (h : ∀ t ∈ ts.head?, literalOf? t = none) :
    (literal d).run (behind l ts) = .ok (none, behind l ts) := by
  rw [literal, run_bind (run_takeIf_of_none fun t ht => by rw [h t ht]; rfl)]
  rfl

theorem run_primary_none (h : ∀ t ∈ ts.head?, NoPrimary t) :
    (primary d n).run (behind l ts) = .ok (none, behind l ts) := by
  have hliteral : (literal d).run (behind l ts) = .ok (none, behind l ts) :=
    run_literal_none fun t ht => (h t ht).literal
  have hintroduced : (introduced d).run (behind l ts) = .ok (none, behind l ts) := by
    rw [introduced, run_bind (run_takeIf_of_none fun t ht => (h t ht).introducer)]
    rfl
  have hparameter : (sessionParameter d).run (behind l ts) = .ok (none, behind l ts) := by
    have hmark : (mark "@@").run (behind l ts) = .ok (false, behind l ts) :=
      run_skipIf_of_none fun t ht => (h t ht).parameter
    have hboth : (pure (d == .mysql) <&&> mark "@@" : Reader Bool).run (behind l ts) =
        .ok (false, behind l ts) := by
      rw [run_andM rfl, hmark]
      cases d == .mysql <;> rfl
    rw [sessionParameter, run_bind hboth]
    rfl
  have hfraction : fraction.run (behind l ts) = .ok (none, behind l ts) := by
    rw [fraction, run_bind run_peekSecond, run_bind (run_pair_of_none fun t ht => (h t ht).point)]
    rfl
  have hparenthesized : (parenthesized d n).run (behind l ts) = .ok (none, behind l ts) := by
    rw [parenthesized, mark, run_bind (run_skipIf_of_none fun t ht => (h t ht).opening)]
    rfl
  rw [primary, run_orElse_none hliteral, run_orElse_none hintroduced, run_orElse_none hparameter,
    run_orElse_none hfraction, hparenthesized]

theorem run_withPart_none (h : FollowedBy ts) (e : Expr) :
    (withPart d n e).run (behind l ts) = .ok (none, behind l ts) := by
  have hbracketed (e : Option Expr) : (bracketed d n e).run (behind l ts) = .ok (none, behind l ts) := by
    rw [bracketed, run_bind (h.run_mark (by decide))]
    rfl
  have hrecord : (record d n).run (behind l ts) = .ok (none, behind l ts) := by
    rw [record, run_bind (h.run_mark (by decide))]
    rfl
  have henclosed (e : Option Expr) : (enclosed d n e).run (behind l ts) = .ok (none, behind l ts) := by
    rw [enclosed, run_orElse_none (hbracketed e), hrecord]
  have hoperator : ts.head?.bind (partOperator? d) = none := by
    cases ts with
    | nil => rfl
    | cons t ts =>
      obtain ⟨x, hx, ht⟩ := h t rfl
      simp only [Token.followers, List.mem_cons, List.not_mem_nil, or_false] at hx
      rcases hx with rfl | rfl | rfl | rfl | rfl | rfl | rfl | rfl <;> simp [partOperator?, ht.kind]
  rw [withPart, run_bind (henclosed (some e))]
  simp only [bind_pure_comp]
  rw [run_bind (h.run_mark (m := "::") (by decide))]
  simp only [Bool.false_eq_true, if_false]
  rw [run_bind (h.run_mark (m := ".") (by decide))]
  simp [hoperator]

theorem run_withParts (h : FollowedBy ts) (e : Expr) :
    (withParts d n e).run (behind l ts) = .ok (e, behind l ts) :=
  run_extend_none (run_withPart_none h e)

/-- A type of its own, without an unit or parts behind it. -/
def isSimpleType (name : String) : Bool :=
  name != "INTERVAL" && !referenceTypes.contains name && !composedTypes.contains name

theorem run_timeZone (h : FollowedBy ts) (name : String) :
    (timeZone name).run (behind l ts) = .ok (name, behind l ts) := by
  rw [timeZone]
  split
  · rw [run_bind (h.run_words (by decide))]
    simp only [Bool.false_eq_true, if_false]
    rw [run_bind (h.run_words (by decide))]
    simp only [Bool.false_eq_true, if_false]
    rw [run_bind (h.run_words (by decide))]
    rfl
  · rfl

theorem run_knownType {name : String} (hname : name ≠ "INTERVAL") (h : FollowedBy ts) (parameters : List Expr) :
    (knownType name parameters).run (behind l ts) = .ok (.named name parameters, behind l ts) := by
  rw [knownType, beq_eq_false_iff_ne.mpr hname]
  simp only [Bool.false_eq_true, if_false]
  rw [run_bind (run_timeZone h name)]
  simp only [bne_self_eq_false, Bool.false_eq_true, if_false]
  rw [run_bind (h.run_word (by decide))]
  rfl

theorem run_composition_none {name : String} (hname : composedTypes.contains name = false) (i j : Bool) :
    (composition d n i j name).run (behind l ts) = .ok (none, behind l ts) := by
  rw [composition, hname]
  rfl

theorem run_arrayBounds_none (h : FollowedBy ts) (i : Bool) (t : TypeExpr) :
    (arrayBounds n i t).run (behind l ts) = .ok (none, behind l ts) := by
  rw [arrayBounds, run_bind run_get, run_bind (run_lastIs _), run_bind (h.run_keyword (by decide)),
    run_bind (h.run_mark (by decide))]
  rfl

theorem run_typeParameters_nil (h : FollowedBy ts) (name : String) :
    (typeParameters n name).run (behind l ts) = .ok (some [], behind l ts) := by
  rw [typeParameters, run_bind (h.run_mark (by decide))]
  rfl

/-- A type that the dialect knows, without parameters. -/
theorem run_typeWith_simple {name : String} (ht : typeWord? d t = some name) (hname : isSimpleType name)
    (h : FollowedBy ts) (i j k : Bool) :
    (typeWith d n i j k).run (behind l (t :: ts)) = .ok (some (.named name []), behind t ts) := by
  simp only [isSimpleType, Bool.and_eq_true, bne_iff_ne, ne_eq, Bool.not_eq_true'] at hname
  obtain ⟨⟨hinterval, hreference⟩, hcomposed⟩ := hname
  have hhead : (typeHead d j).run (behind l (t :: ts)) = .ok (some (.inl name), behind t ts) := by
    rw [typeHead, run_bind (by rw [run_takeIf_cons, ht]; rfl)]
    simp [ht]
  have hopened : (nextIsMark "(").run (behind t ts) = .ok (false, behind t ts) :=
    run_nextIs_of_none fun u hu => (h u hu).isMark_eq_false (by decide)
  rw [typeWith, run_bind run_get, run_bind hhead]
  simp only [hreference, Bool.false_eq_true, if_false]
  rw [run_bind hopened, run_bind (run_typeParameters_nil h name)]
  simp only []
  rw [run_bind (run_composition_none hcomposed i j)]
  simp only []
  rw [run_bind (run_knownType hinterval h [])]
  simp [run_extend_none (run_arrayBounds_none h i _)]

/-- What names no type starts no value behind its type. -/
theorem run_typedValue_of_none (ht : typeWord? d t = none) :
    (typedValue d n).run (behind l (t :: ts)) = .ok (none, behind l (t :: ts)) := by
  have hhead : (typeHead d false).run (behind l (t :: ts)) = .ok (none, behind l (t :: ts)) := by
    rw [typeHead, run_bind (by rw [run_takeIf_cons, ht]; rfl)]
    rfl
  have htype : (typeWith d n false false true).run (behind l (t :: ts)) =
      .ok (none, behind l (t :: ts)) := by
    rw [typeWith, run_bind run_get, run_bind hhead]
    simp only []
    rw [run_bind run_backTo_self]
    rfl
  rw [typedValue, run_bind run_get, run_bind htype]
  rfl

theorem run_bytes_none (ht : t.kind ≠ .type "BINARY") :
    (bytes d n).run (behind l (t :: ts)) = .ok (none, behind l (t :: ts)) := by
  have hword : (pure (d == .mysql) <&&> nextIs (·.kind == .type "BINARY") : Reader Bool).run
      (behind l (t :: ts)) = .ok (false, behind l (t :: ts)) := by
    rw [run_andM rfl, run_nextIs]
    cases d <;> simp [ht]
  rw [bytes, run_bind hword]
  rfl

theorem run_interval_none (ht : t.kind ≠ .type "INTERVAL") :
    (interval d n).run (behind l (t :: ts)) = .ok (none, behind l (t :: ts)) := by
  have hword : (skipIf (·.kind == .type "INTERVAL")).run (behind l (t :: ts)) =
      .ok (false, behind l (t :: ts)) := by
    rw [run_skipIf_cons, if_neg (by simpa using ht)]
  rw [interval, run_bind run_get, run_bind hword]
  rfl

/-- A value that is neither a type nor an amount of time is a column. -/
theorem run_value {e : Expr} (hkind : t.kind ≠ .type "BINARY" ∧ t.kind ≠ .type "INTERVAL")
    (htyped : (typedValue d n).run (behind l (t :: ts)) = .ok (none, behind l (t :: ts)))
    (hcolumn : (column d n).run (behind l (t :: ts)) = .ok (some e, behind t ts)) (h : FollowedBy ts) :
    (value d n).run (behind l (t :: ts)) = .ok (some e, behind t ts) := by
  rw [value, run_bind (run_bytes_none hkind.1)]
  simp only []
  rw [run_bind (run_interval_none hkind.2)]
  simp only []
  rw [run_bind (run_orElse_none htyped |>.trans hcolumn)]
  simp [run_withParts h]

/-- A token that is a value by itself, and the value. -/
inductive IsValue (t : Token) : Expr → Prop
  | number {s : String} (h : t.Is .number s) : IsValue t (.number s)
  | text {s : String} (h : t.Is .text s) : IsValue t (.text s)
  | yes (h : t.Is (.keyword "TRUE") "TRUE") : IsValue t (.bool true)
  | no (h : t.Is (.keyword "FALSE") "FALSE") : IsValue t (.bool false)
  | null (h : t.Is (.type "NULL") "NULL") : IsValue t .null

namespace IsValue

variable {e : Expr} (ht : IsValue t e)

include ht

theorem comments : t.comments = [] := by
  cases ht with
  | number h | text h | yes h | no h | null h => exact h.comments

theorem literalOf? : Grammar.literalOf? t = some e := by
  cases ht with
  | number h | text h | yes h | no h | null h => simp [Grammar.literalOf?, h.kind, h.text]

theorem run_literal (h : FollowedBy ts) :
    (literal d).run (behind l (t :: ts)) = .ok (some e, behind t ts) := by
  have htake : (takeIf fun t => (Grammar.literalOf? t).isSome).run (behind l (t :: ts)) =
      .ok (some t, behind t ts) := by
    rw [run_takeIf_cons, ht.literalOf?]
    rfl
  have htexts : (many textToken).run (behind t ts) = .ok ([], behind t ts) := by
    refine run_many_none ?_
    rw [textToken, run_bind (h.run_takeIf_kind (p := (· == .text)) (by decide))]
    rfl
  rw [literal, run_bind htake]
  simp only [ht.literalOf?, Option.getD_some]
  rw [run_bind (run_noted ht.comments e)]
  split
  · simp only [StateT.run_map, adjoined]
    rw [run_bind htexts]
    rfl
  · rfl

theorem run_reference (h : FollowedBy ts) :
    (reference d n).run (behind l (t :: ts)) = .ok (some e, behind t ts) := by
  have hprimary : (primary d n).run (behind l (t :: ts)) = .ok (some e, behind t ts) := by
    rw [primary, run_orElse_some (ht.run_literal h)]
  have hfield : (plainField d n).run (behind l (t :: ts)) = .ok (some e, behind t ts) := by
    rw [plainField, run_orElse_some hprimary]
  rw [reference, run_bind (run_orElse_some hfield)]
  cases ht <;> rfl

theorem run_column (h : FollowedBy ts) :
    (column d n).run (behind l (t :: ts)) = .ok (some e, behind t ts) := by
  rw [column, run_bind (ht.run_reference h)]
  simp [run_withParts h]

theorem typeWord?_eq_none (hne : e ≠ .null) : typeWord? d t = none := by
  cases ht with
  | number h | text h | yes h | no h => simp [typeWord?, h.kind]
  | null => exact (hne rfl).elim

/-- A value is not the type of another one. The word `NULL` would be a type. -/
theorem run_typedValue (h : FollowedBy ts) :
    (typedValue d n).run (behind l (t :: ts)) = .ok (none, behind l (t :: ts)) := by
  rw [typedValue, run_bind run_get]
  by_cases hnull : e = .null
  · subst hnull
    have hkind : typeWord? d t = some "NULL" := by
      cases ht with
      | null ht => simp [typeWord?, ht.kind]
    rw [run_bind (run_typeWith_simple hkind (by decide) h false false true)]
    simp only []
    rw [run_bind run_get, run_bind (run_primary_none fun u hu => noPrimary_of_follows (h u hu))]
    simp only [hasParameters, List.isEmpty_nil, Bool.not_true, Bool.false_and, Bool.false_eq_true, if_false]
    rw [run_bind (run_backTo (by simp))]
    rfl
  · rw [← run_typedValue_of_none (ht.typeWord?_eq_none hnull), typedValue, run_bind run_get]

theorem run_value (h : FollowedBy ts) :
    (value d n).run (behind l (t :: ts)) = .ok (some e, behind t ts) := by
  refine Grammar.run_value ?_ (ht.run_typedValue h) (ht.run_column h) h
  cases ht with
  | number h | text h | yes h | no h | null h => simp [h.kind]

end IsValue

/-- The current time as an expression. -/
def now (d : Dialect) : Expr :=
  match d with
  | .mysql => Function.named "currenttimestamp" "CURRENT_TIMESTAMP" none []
  | _ => Function.bare "currenttimestamp" "CURRENT_TIMESTAMP"

theorem current_eq_now (d : Dialect) : Function.current d "CURRENT_TIMESTAMP" [] = .ok (now d) := by
  cases d <;> rfl

/-- The current time is a call without parentheses. -/
theorem run_call_now (ht : t.Is (.keyword "CURRENT_TIMESTAMP") "CURRENT_TIMESTAMP") (h : FollowedBy ts)
    (anyWord : Bool) :
    (call d n anyWord false).run (behind l (t :: ts)) = .ok (some (now d), behind t ts) := by
  have hname : Text.upper t.text = "CURRENT_TIMESTAMP" := by
    rw [ht.text, Token.upper_capital _ (by decide)]
  have hbraced : (pair (·.isMark "\x7b") (·.caseless == "FN")).run (behind l (t :: ts)) =
      .ok (false, behind l (t :: ts)) := by
    refine run_pair_of_none fun u hu => ?_
    obtain rfl : t = u := by simpa using hu
    simp [Token.isMark_eq, ht.kind]
  have hsecond : (secondIs (·.isMark "(")).run (behind l (t :: ts)) = .ok (false, behind l (t :: ts)) := by
    rw [run_secondIs]
    cases ts with
    | nil => rfl
    | cons u ts => simp [(h u rfl).isMark_eq_false (m := "(") (by decide)]
  have hplain : (plainCall d n anyWord false).run (behind l (t :: ts)) = .ok (some (now d), behind t ts) := by
    have hworded : wordedValue? d n "CURRENT_TIMESTAMP" = none := rfl
    have hbare : "CURRENT_TIMESTAMP" ∈ Function.bareNames d := by
      cases d <;> decide
    rw [plainCall, run_bind run_peek]
    simp only [List.head?_cons]
    rw [run_bind run_get]
    simp only [hname, hworded, ite_self]
    rw [run_bind hsecond]
    simp [Token.isKeyword_eq, ht.kind, hbare, current_eq_now, built, run_noted ht.comments]
  rw [call, run_bind hbraced, run_bind hplain]
  rfl

theorem run_value_now (ht : t.Is (.keyword "CURRENT_TIMESTAMP") "CURRENT_TIMESTAMP") (h : FollowedBy ts) :
    (value d n).run (behind l (t :: ts)) = .ok (some (now d), behind t ts) := by
  have hprimary : (primary d n).run (behind l (t :: ts)) = .ok (none, behind l (t :: ts)) := by
    refine run_primary_none fun u hu => ?_
    obtain rfl : t = u := by simpa using hu
    constructor <;> simp [literalOf?, Token.isKeyword_eq, Token.isMark_eq, ht.kind]
  have hfield : (plainField d n).run (behind l (t :: ts)) = .ok (some (now d), behind t ts) := by
    rw [plainField, run_orElse_none hprimary, run_orElse_some (run_call_now ht h false)]
  have hcolumn : (column d n).run (behind l (t :: ts)) = .ok (some (now d), behind t ts) := by
    have hreference : (reference d n).run (behind l (t :: ts)) = .ok (some (now d), behind t ts) := by
      rw [reference, run_bind (run_orElse_some hfield)]
      cases d <;> rfl
    rw [column, run_bind hreference]
    simp [run_withParts h]
  refine run_value (by simp [ht.kind]) (run_typedValue_of_none ?_) hcolumn h
  simp [typeWord?, ht.kind]

end SchemaDesk.Sql.Grammar
