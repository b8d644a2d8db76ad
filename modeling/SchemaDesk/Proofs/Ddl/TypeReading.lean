import SchemaDesk.Proofs.Ddl.Type
import SchemaDesk.Proofs.Sql.Reading.Name
/-!
What the grammar makes of the types of scripts: it takes the whole type, or nothing of it if one of its
numbers is negative.
-/

namespace SchemaDesk.Ddl.TypeWords

open Sql Sql.Reader Sql.Grammar Sql.Cursor

variable {d : Dialect} {l : Token} {us ts : List Token}

theorem run_anyWord_none (hts : EndsItem ts) : anyWord.run (behind l ts) = .ok (none, behind l ts) := by
  have hreserved : ∀ u ∈ ts.head?, (!isReserved u) = false := by
    intro u hu
    rcases hts u hu with hcomma | hclosing
    · have hu : u.Is (.mark ",") "," := Token.is_iff_shape.mpr hcomma
      simp [isReserved, hu.kind]
      decide
    · have hu : u.Is (.mark ")") ")" := Token.is_iff_shape.mpr hclosing
      simp [isReserved, hu.kind]
      decide
  rw [anyWord, run_bind (run_takeIf_of_none hreserved)]
  rfl

def numberShapes (n : Int) : List TokenShape := (Literal.ofInt n).lexemes.filterMap Lexeme.shape?

/-- A parameter that is not negative is a size without a word behind it. -/
theorem takesEach_typeSize (k : Nat) {n : Int} (hn : 0 ≤ n) :
    TakesEach (typeSize (nested d (k + 1))) numberShapes parameter n := by
  intro us ts hus hts
  have hpositive : decide (n < 0) = false := by simpa using hn
  simp only [numberShapes, Literal.ofInt, hpositive] at hus
  obtain ⟨t, rfl, ht⟩ := List.map_eq_singleton_iff.mp hus
  have ht : t.Is .number (String.ofList (Nat.toDigits 10 n.natAbs)) := Token.is_iff_shape.mpr ht
  have hvalue (l : Token) : (nested d (k + 1)).value.run (behind l (t :: ts)) =
      .ok (some (parameter n), behind t ts) :=
    (IsValue.number ht).run_value hts.followedBy
  refine .of_run_cons ht.comments fun l _ => ?_
  rw [typeSize, run_bind (hvalue l)]
  simp only [Expr.bare, parameter]
  rw [run_bind (run_anyWord_none hts)]
  simp [run_noted ht.comments]

theorem shapes_numberLexemes (n : Int) (ns : List Int) :
    (numberLexemes (n :: ns)).filterMap Lexeme.shape? =
      .opening :: ((numberShapes n ++ ns.flatMap fun m => .comma :: numberShapes m) ++ [.closing]) := by
  have hns : (ns.flatMap fun m => .mark ',' :: (Literal.ofInt m).lexemes).filterMap Lexeme.shape? =
      ns.flatMap fun m => .comma :: numberShapes m := by
    rw [List.filterMap_flatMap]
    rfl
  rw [numberLexemes, List.filterMap_cons_some (by rfl), List.filterMap_append, List.filterMap_append,
    hns, List.append_assoc]
  rfl

theorem takes_typeParameters (k : Nat) {name : String} (hname : name ≠ "ENUM" ∧ name ≠ "SET")
    {ns : List Int} (hns : ∀ n ∈ ns, 0 ≤ n)
    (hus : us.map Token.shape = (numberLexemes ns).filterMap Lexeme.shape?) (hts : FollowedBy ts) :
    Takes (typeParameters (nested d (k + 1)) name) us ts (some (ns.map parameter)) := by
  obtain - | ⟨n, ns⟩ := ns
  · obtain rfl : us = [] := by simpa [numberLexemes] using hus
    exact .of_run fun l _ => run_typeParameters_nil hts name
  · rw [shapes_numberLexemes] at hus
    obtain ⟨o, us, rfl, ho, hus⟩ := List.map_eq_cons_iff.mp hus
    obtain ⟨vs, cs, rfl, hvs, hcs⟩ := List.map_eq_append_iff.mp hus
    obtain ⟨c, rfl, hc⟩ := List.map_eq_singleton_iff.mp hcs
    have hois : o.Is (.mark "(") "(" := Token.is_iff_shape.mpr ho
    have hcis : c.Is (.mark ")") ")" := Token.is_iff_shape.mpr hc
    have hends : EndsItems (c :: ts) := endsItems_cons hc
    have hvalues := takes_values n ns (fun m hm => takesEach_typeSize (d := d) k (hns m hm)) hvs hends
    intro l _
    obtain ⟨l', -, hrun⟩ := hvalues o hois.comments
    refine ⟨c, hcis.comments, ?_⟩
    have hopen : (mark "(").run (behind l (o :: (vs ++ [c] ++ ts))) =
        .ok (true, behind o (vs ++ [c] ++ ts)) := by
      rw [mark, run_skipIf_cons, if_pos (Token.isMark_of_shape ho)]
    have hclose : (pure (!((n :: ns).map parameter).isEmpty) <&&> mark ")" : Reader Bool).run
        (behind l' (c :: ts)) = .ok (true, behind c ts) := by
      rw [run_andM rfl, mark, run_skipIf_cons, if_pos (Token.isMark_of_shape hc)]
      rfl
    rw [List.cons_append, typeParameters, run_bind hopen]
    simp only [beq_eq_false_iff_ne.mpr hname.1, beq_eq_false_iff_ne.mpr hname.2, Bool.or_self,
      Bool.false_eq_true, if_true, if_false]
    rw [List.append_assoc, List.singleton_append, run_bind hrun, run_bind hclose]
    rfl

/-- A word of PostgreSQL that is no type of the dialect itself names a type in quotation marks. -/
theorem quotedType?_eq_none {t : TypeWords} (ht : t.IsKnown .postgresql) (hkind : t.kind = .word) :
    quotedType? .postgresql t.name = none := by
  obtain hdouble | ⟨hname, hword, hfirst⟩ := forall_forms .postgresql _ ht
  · simp [hkind] at hdouble
  have hphrase : Lexer.NoPhrase .postgresql t.name.toList [] := by
    refine fun q hq hstart => .of_none ?_
    rcases hfirst q hq hstart with ⟨hq, -⟩ | hq
    · rw [hq]
      exact phraseSize?_eq_none_of_head (p := "VARYING".toList) (by simp)
    · rw [hq]
      exact phraseSize?_eq_none_of_head (p := "PRECISION".toList) (by simp)
  have hcut : Lexeme.Cuts .postgresql [.verbatim .word t.name] [] :=
    ⟨Lexeme.word_cutBefore hname (hword.trans hkind) (by simp [Lexer.Delimited]) hphrase, trivial⟩
  obtain ⟨us, hus, hshapes⟩ := Lexer.tokens?_of_cuts hcut (by simp [Lexeme.Settled, Lexeme.verbatim])
    (by simp [Lexeme.shapes, Lexeme.unclaimed, Lexeme.noteLast, Lexeme.verbatim, Lexer.swallows])
  obtain ⟨u, rfl, hu⟩ := List.map_eq_singleton_iff.mp hshapes
  have hu : u.Is .word t.name := Token.is_iff_shape.mpr hu
  have hwritten : Lexeme.allWritten [.verbatim .word t.name] = t.name.toList := by
    simp [Lexeme.allWritten, Lexeme.verbatim, Lexeme.written]
  rw [quotedType?, ← hwritten, hus]
  simp [typeWord?, hu.kind]

theorem run_typeHead_word {t : TypeWords} (ht : t.IsKnown .postgresql) (hkind : t.kind = .word)
    {u : Token} (hu : u.Is .word t.name) (hts : ∀ v ∈ ts.head?, v.isMark "." = false) :
    (typeHead .postgresql true).run (behind l (u :: ts)) =
      .ok (some (.inr [{ text := t.name }]), behind u ts) := by
  have hknown : (takeIf fun v => (typeWord? .postgresql v).isSome).run (behind l (u :: ts)) =
      .ok (none, behind l (u :: ts)) := by
    rw [run_takeIf_cons, if_neg (by simp [typeWord?, hu.kind])]
  have hname : (nameAmong (·.kind == .word)).run (behind l (u :: ts)) =
      .ok (some { text := t.name }, behind u ts) :=
    run_nameAmong_word hu (by simp [hu.kind])
  have hmembers : (ownType .postgresql { text := t.name }).run (behind u ts) =
      .ok ([{ text := t.name }], behind u ts) := by
    rw [ownType, run_bind (run_many_none ?_)]
    · rfl
    · rw [mark, run_bind (run_skipIf_of_none hts)]
      rfl
  rw [typeHead, run_bind hknown]
  simp only [Bool.not_true, Bool.false_eq_true, if_false]
  rw [run_bind hname]
  have hnames : namesAreTypes .postgresql = true := rfl
  simp only [quotedType?_eq_none ht hkind, hnames, if_true]
  rw [run_bind hmembers]
  rfl

/-- A known type behind its name. -/
theorem takes_typeWith_known {n : Nested} {u : Token} {name : String} {es : List Expr} {e : TypeExpr}
    (hu : u.comments = []) (hname : typeWord? d u = some name)
    (hsimple : referenceTypes.contains name = false ∧ composedTypes.contains name = false)
    (hparameters : Takes (typeParameters n name) us ts (some es))
    (hwhole : ∀ l : Token, l.comments = [] →
      (knownType name es).run (behind l ts) = .ok (e, behind l ts))
    (hts : FollowedBy ts) : Takes (typeWith d n true true false) (u :: us) ts (some e) := by
  intro l _
  obtain ⟨l', hl', hrun⟩ := hparameters u hu
  refine ⟨l', hl', ?_⟩
  have hhead : (typeHead d true).run (behind l (u :: (us ++ ts))) =
      .ok (some (.inl name), behind u (us ++ ts)) := by
    rw [typeHead, run_bind (by rw [run_takeIf_cons, hname]; rfl)]
    simp [hname]
  rw [List.cons_append, typeWith, run_bind run_get, run_bind hhead]
  simp only [hsimple.1, Bool.false_eq_true, if_false]
  rw [nextIsMark, run_bind (run_nextIs _), run_bind hrun]
  simp only [Bool.and_false, Bool.false_and, Bool.false_eq_true, if_false]
  rw [run_bind (run_composition_none hsimple.2 true true)]
  simp only []
  rw [run_bind (hwhole l' hl'), run_bind (run_nextIs _)]
  simp [run_extend_none (run_arrayBounds_none hts true e)]

/-- A type of its own behind its name. -/
theorem takes_typeWith_own {n : Nested} {u : Token} {path : List Ident} {es : List Expr}
    (hu : u.comments = [])
    (hhead : ∀ l, (typeHead d true).run (behind l (u :: (us ++ ts))) =
      .ok (some (.inr path), behind u (us ++ ts)))
    (hparameters : Takes (typeParameters n "") us ts (some es)) (hts : FollowedBy ts) :
    Takes (typeWith d n true true false) (u :: us) ts (some (.userDefined path es)) := by
  intro l _
  obtain ⟨l', hl', hrun⟩ := hparameters u hu
  refine ⟨l', hl', ?_⟩
  have hcomposed : composedTypes.contains "" = false := by decide
  have hreference : referenceTypes.contains "" = false := by decide
  rw [List.cons_append, typeWith, run_bind run_get, run_bind (hhead l)]
  simp only [hreference, Bool.false_eq_true, if_false]
  rw [nextIsMark, run_bind (run_nextIs _), run_bind hrun]
  simp only [Bool.and_false, Bool.false_and, Bool.false_eq_true, if_false]
  rw [run_bind (run_composition_none hcomposed true true)]
  simp only [pure_bind]
  rw [run_bind (run_nextIs _)]
  simp [run_extend_none (run_arrayBounds_none hts true _)]

theorem run_intervalType (hl : l.comments = []) (hts : FollowedBy ts) :
    intervalType.run (behind l ts) = .ok (.noted [] (.named "INTERVAL" []), behind l ts) := by
  have hword : plainWord.run (behind l ts) = .ok (none, behind l ts) := by
    rw [plainWord, run_bind (hts.run_takeIf_kind (p := (· == .word)) (by decide))]
    rfl
  rw [intervalType, run_bind hword]
  simp only []
  rw [run_bind (run_takeComments hl)]
  rfl

theorem isSimpleType_iff {name : String} : isSimpleType name ↔ name ≠ "INTERVAL" ∧
    referenceTypes.contains name = false ∧ composedTypes.contains name = false := by
  simp [isSimpleType, and_assoc]

theorem ne_enum_of_isSimpleType {d : Dialect} {t : TypeWords} {name : String} (ht : t.IsKnown d)
    (hname : t.kind = .type name) : name ≠ "ENUM" ∧ name ≠ "SET" := by
  have hall : ∀ f ∈ forms d, f.1 ≠ .type "ENUM" ∧ f.1 ≠ .type "SET" := by
    cases d <;> decide +kernel
  have h := hall _ ht
  rw [hname] at h
  simpa using h

theorem not_point_of_numbers {ns : List Int}
    (hus : us.map Token.shape = (numberLexemes ns).filterMap Lexeme.shape?) (hts : FollowedBy ts) :
    ∀ v ∈ (us ++ ts).head?, v.isMark "." = false := by
  intro v hv
  obtain - | ⟨n, ns⟩ := ns
  · obtain rfl : us = [] := by simpa [numberLexemes] using hus
    exact (hts v hv).isMark_eq_false (by decide)
  · rw [shapes_numberLexemes] at hus
    obtain ⟨o, us, rfl, ho, -⟩ := List.map_eq_cons_iff.mp hus
    have ho : o.Is (.mark "(") "(" := Token.is_iff_shape.mpr ho
    obtain rfl : o = v := by simpa using hv
    simp [Token.isMark_eq, ho.kind]

/-- The grammar takes a whole type, if none of its numbers is negative. -/
theorem takes_type (k : Nat) {t : TypeWords} (ht : t.IsKnown d) (hnumbers : ∀ n ∈ t.numbers, 0 ≤ n)
    (hus : us.map Token.shape = t.lexemes.filterMap Lexeme.shape?) (hts : FollowedBy ts) :
    Takes (typeWith d (nested d (k + 1)) true true false) us ts (some t.expr) := by
  obtain ⟨u, us, rfl, hu, hus⟩ := List.map_eq_cons_iff.mp hus
  have hu : u.Is t.kind t.name := Token.is_iff_shape.mpr hu
  have hparameters {name : String} (hname : name ≠ "ENUM" ∧ name ≠ "SET") :
      Takes (typeParameters (nested d (k + 1)) name) us ts (some t.parameters) :=
    takes_typeParameters k hname hnumbers hus hts
  rcases form_cases ht with ⟨name, hkind, hsimple⟩ | ⟨hkind, hzero⟩ | ⟨hkind, rfl⟩
  · obtain ⟨hinterval, hreference, hcomposed⟩ := isSimpleType_iff.mp hsimple
    have hexpr : t.expr = .named name t.parameters := by
      rw [expr, hkind]
      split
      · next h => exact (hinterval (TokenKind.type.inj h)).elim
      · next h => rw [TokenKind.type.inj h]
      · next h => exact (h name rfl).elim
    rw [hexpr]
    exact takes_typeWith_known hu.comments (by rw [typeWord?, hu.kind, hkind]) ⟨hreference, hcomposed⟩
      (hparameters (ne_enum_of_isSimpleType ht hkind))
      (fun l _ => run_knownType hinterval hts t.parameters) hts
  · have hexpr : t.expr = .noted [] (.named "INTERVAL" []) := by
      rw [expr, hkind]
      rfl
    have hnone : t.parameters = [] := by
      rw [parameters, List.length_eq_zero_iff.mp hzero]
      rfl
    rw [hexpr]
    refine takes_typeWith_known hu.comments (by rw [typeWord?, hu.kind, hkind]) (by decide)
      (hparameters (by decide)) (fun l hl => ?_) hts
    rw [knownType, beq_self_eq_true, if_pos rfl]
    exact run_intervalType hl hts
  · have hexpr : t.expr = .userDefined [{ text := t.name }] t.parameters := by rw [expr, hkind]
    rw [hexpr]
    refine takes_typeWith_own hu.comments (fun l => run_typeHead_word ht hkind (hkind ▸ hu) ?_)
      (hparameters (by decide)) hts
    exact not_point_of_numbers hus hts

/-! ### Negative numbers -/

theorem noColumn_minus {m : Token} (hm : m.Is (.mark "-") "-") : NoColumn d m := by
  have hupper : Text.upper m.text = "-" := by
    rw [hm.text, Token.upper_capital "-" (by decide)]
  constructor
  · constructor <;> simp [literalOf?, Token.isKeyword_eq, Token.isMark_eq, hm.kind]
  · intro n
    rw [hupper]
    rfl
  · rw [hupper]
    cases d <;> decide
  · cases d <;> simp [isFunctionWord, hm.kind]
  · simp [isNameWord, hm.kind]
  · simp [hm.kind]
  · simp [Token.isMark_eq, hm.kind]
  · simp [Token.isKeyword_eq, hm.kind]

/-- No size starts with a minus sign. -/
theorem run_typeSize_minus {k : Nat} {m : Token} (hm : m.Is (.mark "-") "-") :
    (typeSize (nested d (k + 1))).run (behind l (m :: ts)) = .ok (none, behind l (m :: ts)) := by
  have hcolumn : (column d (nested d k)).run (behind l (m :: ts)) = .ok (none, behind l (m :: ts)) := by
    refine run_column_none fun t ht => ?_
    obtain rfl : m = t := by simpa using ht
    exact noColumn_minus hm
  have htyped : (typedValue d (nested d k)).run (behind l (m :: ts)) = .ok (none, behind l (m :: ts)) :=
    run_typedValue_of_none (by simp [typeWord?, hm.kind])
  have hvalue : (nested d (k + 1)).value.run (behind l (m :: ts)) = .ok (none, behind l (m :: ts)) := by
    show (value d (nested d k)).run _ = _
    rw [value, run_bind (run_bytes_none (by simp [hm.kind]))]
    simp only []
    rw [run_bind (run_interval_none (by simp [hm.kind]))]
    simp only []
    rw [run_bind ((run_orElse_none htyped).trans hcolumn)]
    rfl
  rw [typeSize, run_bind hvalue]
  rfl

theorem numberShapes_of_neg {n : Int} (hn : n < 0)
    (hus : us.map Token.shape = numberShapes n) :
    ∃ m vs, us = m :: vs ∧ m.Is (.mark "-") "-" := by
  have hnegative : decide (n < 0) = true := by simpa using hn
  simp only [numberShapes, Literal.ofInt, hnegative] at hus
  obtain ⟨m, vs, rfl, hm, -⟩ := List.map_eq_cons_iff.mp hus
  exact ⟨m, vs, rfl, Token.is_iff_shape.mpr hm⟩

/-- In front of a negative number, the reader of sizes stops at the minus sign. -/
theorem stopsEach_typeSize (k : Nat) {n : Int} (hn : n < 0) :
    StopsEach (typeSize (nested d (k + 1))) numberShapes (·.Is (.mark "-") "-") n := by
  intro us ts l hus _ _
  obtain ⟨m, vs, rfl, hm⟩ := numberShapes_of_neg hn hus
  refine ⟨none, l, m, vs ++ ts, run_typeSize_minus hm, hm, ?_⟩
  rw [List.cons_append, List.length_cons]
  exact Nat.lt_succ_self _

/-- Parameters with a negative number among them are none. -/
theorem run_typeParameters_negative (k : Nat) {name : String} (hname : name ≠ "ENUM" ∧ name ≠ "SET")
    {ns : List Int} (hns : ∃ n ∈ ns, n < 0)
    (hus : us.map Token.shape = (numberLexemes ns).filterMap Lexeme.shape?) :
    ∃ l' vs, vs.length ≤ (us ++ ts).length ∧
      (typeParameters (nested d (k + 1)) name).run (behind l (us ++ ts)) = .ok (none, behind l' vs) := by
  obtain - | ⟨n, ns⟩ := ns
  · simp at hns
  rw [shapes_numberLexemes] at hus
  obtain ⟨o, us, rfl, ho, hus⟩ := List.map_eq_cons_iff.mp hus
  obtain ⟨vs, cs, rfl, hvs, hcs⟩ := List.map_eq_append_iff.mp hus
  obtain ⟨c, rfl, hc⟩ := List.map_eq_singleton_iff.mp hcs
  have hois : o.Is (.mark "(") "(" := Token.is_iff_shape.mpr ho
  have heach : ∀ m ∈ n :: ns, TakesEach (typeSize (nested d (k + 1))) numberShapes parameter m ∨
      StopsEach (typeSize (nested d (k + 1))) numberShapes (·.Is (.mark "-") "-") m := fun m _ =>
    (Int.lt_or_le m 0).symm.imp (takesEach_typeSize k) (stopsEach_typeSize k)
  have hstop : ∃ m ∈ n :: ns,
      StopsEach (typeSize (nested d (k + 1))) numberShapes (·.Is (.mark "-") "-") m := by
    obtain ⟨m, hm, hneg⟩ := hns
    exact ⟨m, hm, stopsEach_typeSize k hneg⟩
  have hends : EndsItems (c :: ts) := endsItems_cons hc
  have hnoted : ∀ e (l : Token) ts, l.comments = [] →
      (noted e).run (behind l ts) = .ok (e, behind l ts) := fun e _ _ hl => run_noted hl e
  obtain ⟨es, l', m, ws, hrun, hm, hlength⟩ := stops_items hnoted
    (fun m hm => by simp [Token.isMark_eq, hm.kind]) hois.comments n ns heach hstop hvs hends
  have hopen : (mark "(").run (behind l (o :: (vs ++ [c] ++ ts))) =
      .ok (true, behind o (vs ++ [c] ++ ts)) := by
    rw [mark, run_skipIf_cons, if_pos (Token.isMark_of_shape ho)]
  have hclose : (pure (!es.isEmpty) <&&> mark ")" : Reader Bool).run (behind l' (m :: ws)) =
      .ok (false, behind l' (m :: ws)) := by
    have hminus : m.isMark ")" = false := by simp [Token.isMark_eq, hm.kind]
    rw [run_andM rfl, mark, run_skipIf_cons, hminus]
    cases !es.isEmpty <;> rfl
  refine ⟨l', m :: ws, ?_, ?_⟩
  · simp only [List.length_cons, List.length_append] at hlength ⊢
    omega
  · rw [List.cons_append, typeParameters, run_bind hopen]
    simp only [beq_eq_false_iff_ne.mpr hname.1, beq_eq_false_iff_ne.mpr hname.2, Bool.or_self,
      Bool.false_eq_true, if_true, if_false]
    rw [List.append_assoc, List.singleton_append, values, run_bind hrun, run_bind hclose]
    rfl

/-- What starts like a type is none if its parameters are none. -/
theorem run_typeWith_none {n : Nested} {u : Token} {head : Sum String (List Ident)}
    (hhead : (typeHead d true).run (behind l (u :: ts)) = .ok (some head, behind u ts))
    (hreference : ∀ name, head = .inl name → referenceTypes.contains name = false)
    (hparameters : ∀ name, head = .inl name ∨ name = "" → ∃ l' vs, vs.length ≤ ts.length ∧
      (typeParameters n name).run (behind u ts) = .ok (none, behind l' vs)) :
    (typeWith d n true true false).run (behind l (u :: ts)) = .ok (none, behind l (u :: ts)) := by
  have hempty : referenceTypes.contains "" = false := by decide
  rw [typeWith, run_bind run_get, run_bind hhead]
  cases head with
  | inl name =>
    obtain ⟨l', vs, hlength, hrun⟩ := hparameters name (Or.inl rfl)
    simp only [hreference name rfl, Bool.false_eq_true, if_false]
    rw [nextIsMark, run_bind (run_nextIs _), run_bind hrun]
    simp only []
    rw [run_bind (run_backTo (by simp; omega))]
    rfl
  | inr path =>
    obtain ⟨l', vs, hlength, hrun⟩ := hparameters "" (Or.inr rfl)
    simp only [hempty, Bool.false_eq_true, if_false]
    rw [nextIsMark, run_bind (run_nextIs _), run_bind hrun]
    simp only []
    rw [run_bind (run_backTo (by simp; omega))]
    rfl

/-- A type with a negative number is no type for the grammar. -/
theorem run_type_negative (k : Nat) {t : TypeWords} (ht : t.IsKnown d)
    (hnumbers : ∃ n ∈ t.numbers, n < 0)
    (hus : us.map Token.shape = t.lexemes.filterMap Lexeme.shape?) (hts : FollowedBy ts) :
    (typeWith d (nested d (k + 1)) true true false).run (behind l (us ++ ts)) =
      .ok (none, behind l (us ++ ts)) := by
  obtain ⟨u, us, rfl, hu, hus⟩ := List.map_eq_cons_iff.mp hus
  have hu : u.Is t.kind t.name := Token.is_iff_shape.mpr hu
  have hparameters {name : String} (hname : name ≠ "ENUM" ∧ name ≠ "SET") :=
    @run_typeParameters_negative d u us ts k name hname _ hnumbers hus
  have hempty := @hparameters "" (by decide)
  rcases form_cases ht with ⟨name, hkind, hsimple⟩ | ⟨hkind, hzero⟩ | ⟨hkind, rfl⟩
  · have hword : typeWord? d u = some name := by rw [typeWord?, hu.kind, hkind]
    have hhead : (typeHead d true).run (behind l (u :: (us ++ ts))) =
        .ok (some (.inl name), behind u (us ++ ts)) := by
      rw [typeHead, run_bind (by rw [run_takeIf_cons, hword]; rfl)]
      simp [hword]
    refine run_typeWith_none hhead ?_ ?_
    · rintro _ ⟨⟩
      exact (isSimpleType_iff.mp hsimple).2.1
    · rintro _ (⟨⟨⟩⟩ | rfl)
      · exact hparameters (ne_enum_of_isSimpleType ht hkind)
      · exact hempty
  · obtain ⟨n, hn, -⟩ := hnumbers
    simp [List.length_eq_zero_iff.mp hzero] at hn
  · refine run_typeWith_none (run_typeHead_word ht hkind (hkind ▸ hu) (not_point_of_numbers hus hts)) ?_ ?_
    · rintro _ ⟨⟩
    · rintro _ (⟨⟨⟩⟩ | rfl)
      exact hempty

end SchemaDesk.Ddl.TypeWords
