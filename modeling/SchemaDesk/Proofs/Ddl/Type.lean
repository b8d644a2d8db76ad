import SchemaDesk.Proofs.Ddl.Literal
import SchemaDesk.Proofs.Sql.Reading.Items
/-!
The types of columns as scripts write them: a name and numbers between parentheses.
-/

namespace SchemaDesk.Ddl

open Sql Sql.Reader Sql.Grammar Sql.Cursor

/-- An integer as a number with a sign if it needs one. -/
def Literal.ofInt (n : Int) : Literal := .number (decide (n < 0)) (Nat.toDigits 10 n.natAbs)

/-- A type by the token of its name and by its numbers. -/
structure TypeWords where
  kind : TokenKind
  name : String
  numbers : List Int := []

namespace TypeWords

/-- The names of types that all scripts of a dialect use, with the kinds of their tokens and with the
counts of their numbers. -/
def forms : Dialect → List (TokenKind × String × Nat)
  | .postgresql => [
    (.type "SMALLINT", "SMALLINT", 0), (.type "INT", "INT", 0), (.type "INT", "INTEGER", 0),
    (.type "BIGINT", "BIGINT", 0), (.type "DECIMAL", "DECIMAL", 2), (.type "DECIMAL", "NUMERIC", 2),
    (.type "FLOAT", "REAL", 0), (.type "DOUBLE", "DOUBLE PRECISION", 0), (.type "DOUBLE", "FLOAT", 0),
    (.type "MONEY", "MONEY", 0), (.type "SMALLSERIAL", "SMALLSERIAL", 0),
    (.type "SERIAL", "SERIAL", 0), (.type "BIGSERIAL", "BIGSERIAL", 0), (.type "CHAR", "CHAR", 1),
    (.type "VARCHAR", "VARCHAR", 1), (.type "TEXT", "TEXT", 0), (.type "VARBINARY", "BYTEA", 0),
    (.type "DATE", "DATE", 0), (.type "TIME", "TIME", 0), (.type "TIMETZ", "TIMETZ", 0),
    (.type "TIMESTAMP", "TIMESTAMP", 0), (.type "TIMESTAMPTZ", "TIMESTAMPTZ", 0),
    (.type "INTERVAL", "INTERVAL", 0), (.type "BOOLEAN", "BOOLEAN", 0), (.type "POINT", "POINT", 0),
    (.word, "LINE", 0), (.word, "LSEG", 0), (.word, "BOX", 0), (.word, "PATH", 0),
    (.word, "POLYGON", 0), (.word, "CIRCLE", 0), (.word, "CIDR", 0), (.type "INET", "INET", 0),
    (.word, "MACADDR", 0), (.word, "MACADDR8", 0), (.type "BIT", "BIT", 1), (.word, "VARBIT", 1),
    (.word, "TSVECTOR", 0), (.word, "TSQUERY", 0), (.type "JSON", "JSON", 0),
    (.type "JSONB", "JSONB", 0), (.type "UUID", "UUID", 0), (.type "XML", "XML", 0),
    (.type "VECTOR", "VECTOR", 0), (.type "VECTOR", "VECTOR", 1), (.word, "HALFVEC", 0),
    (.word, "HALFVEC", 1), (.word, "SPARSEVEC", 0), (.word, "SPARSEVEC", 1)]
  | .mysql => [
    (.type "SMALLINT", "SMALLINT", 0), (.type "INT", "INT", 0), (.type "INT", "INTEGER", 0),
    (.type "BIGINT", "BIGINT", 0), (.type "DECIMAL", "DECIMAL", 2), (.type "DECIMAL", "NUMERIC", 2),
    (.type "FLOAT", "FLOAT", 0), (.type "DOUBLE", "DOUBLE", 0), (.type "CHAR", "CHAR", 1),
    (.type "VARCHAR", "VARCHAR", 1), (.type "TEXT", "TEXT", 0), (.type "BLOB", "BLOB", 0),
    (.type "DATE", "DATE", 0), (.type "TIME", "TIME", 0), (.type "TIMESTAMPTZ", "TIMESTAMP", 0),
    (.type "TINYINT", "TINYINT", 1), (.type "BIT", "BIT", 1), (.type "JSON", "JSON", 0)]
  | .sqlite => [
    (.type "INT", "INTEGER", 0), (.type "FLOAT", "REAL", 0), (.type "VARBINARY", "BLOB", 0),
    (.type "TEXT", "TEXT", 0)]

def IsKnown (d : Dialect) (t : TypeWords) : Prop := (t.kind, t.name, t.numbers.length) ∈ forms d

/-- The numbers between parentheses. -/
def numberLexemes : List Int → List Lexeme
  | [] => []
  | n :: ns =>
    .mark '(' :: ((Literal.ofInt n).lexemes ++
      (ns.flatMap (fun m => .mark ',' :: (Literal.ofInt m).lexemes) ++ [.mark ')']))

def lexemes (t : TypeWords) : List Lexeme := .verbatim t.kind t.name :: numberLexemes t.numbers

/-- A number that is not negative, as a parameter. -/
def parameter (n : Int) : Expr := .number (String.ofList (Nat.toDigits 10 n.natAbs))

def parameters (t : TypeWords) : List Expr := t.numbers.map parameter

def expr (t : TypeWords) : TypeExpr :=
  match t.kind with
  | .type "INTERVAL" => .noted [] (.named "INTERVAL" [])
  | .type name => .named name t.parameters
  | _ => .userDefined [{ text := t.name }] t.parameters

/-- What the names of types are to the grammar. -/
theorem form_cases {d : Dialect} {k : TokenKind} {s : String} {n : Nat} (h : (k, s, n) ∈ forms d) :
    (∃ name, k = .type name ∧ isSimpleType name) ∨ (k = .type "INTERVAL" ∧ n = 0) ∨
      (k = .word ∧ d = .postgresql) := by
  have hall : ∀ f ∈ forms d, (match f.1 with
      | .type name => isSimpleType name || (name == "INTERVAL" && f.2.2 == 0)
      | .word => d == .postgresql
      | _ => false) = true := by
    cases d <;> decide +kernel
  have hform := hall _ h
  cases k with
  | type name =>
    rcases Bool.or_eq_true _ _ ▸ hform with hsimple | hinterval
    · exact Or.inl ⟨name, rfl, hsimple⟩
    · exact Or.inr (Or.inl (by simpa using hinterval))
  | word => exact Or.inr (Or.inr ⟨rfl, by simpa using hform⟩)
  | _ => cases hform

/-! ### Cutting -/

/-- The word that would make a phrase of `DOUBLE` does not stand next. -/
def NoPrecision (rest : List Char) : Prop := Lexer.NoWords " PRECISION".toList rest

theorem phraseSize?_eq_none_of_head {p rest : List Char}
    (hrest : ∀ c ∈ rest.head?, Text.isBlank c = false) : Lexer.phraseSize? (' ' :: p) rest = none := by
  cases rest with
  | nil => rw [Lexer.phraseSize?]
  | cons c rest =>
    have hc : Text.isBlank c = false := hrest c rfl
    rw [Lexer.phraseSize?]
    simp [hc]

theorem forall_forms (d : Dialect) : ∀ f ∈ forms d,
    (f.1, f.2.1) = (.type "DOUBLE", "DOUBLE PRECISION") ∨
      Text.isName f.2.1.toList = true ∧ Keyword.ofWord d (Text.upper f.2.1) = f.1 ∧
        ∀ q ∈ Keyword.ofPhrases d, Lexer.firstWord q.1.toList = Text.upperChars f.2.1.toList →
          (q.1 = "CHAR VARYING" ∧ f.2.2 ≠ 0) ∨ q.1 = "DOUBLE PRECISION" := by
  cases d <;> decide +kernel

theorem cuts_ofInt (d : Dialect) (n : Int) {rest : List Char} (hrest : Lexer.Delimited rest) :
    Lexeme.Cuts d (Literal.ofInt n).lexemes rest := by
  have hvalid : (Literal.ofInt n).IsValid :=
    ⟨Nat.toDigits_ne_nil, fun _ hc => Nat.isDigit_of_mem_toDigits (by decide) (by decide) hc⟩
  exact Literal.cuts (hvalid.isFound d) hrest

theorem cuts_furtherNumbers (d : Dialect) (ns : List Int) (rest : List Char) :
    Lexeme.Cuts d (ns.flatMap (fun n => .mark ',' :: (Literal.ofInt n).lexemes) ++ [.mark ')']) rest := by
  induction ns with
  | nil => exact ⟨Lexeme.mark_cutBefore rfl _, trivial⟩
  | cons n ns ih =>
    rw [List.flatMap_cons, List.append_assoc]
    refine Lexeme.Cuts.append ⟨Lexeme.mark_cutBefore rfl _, cuts_ofInt d n ?_⟩ ih
    cases ns with
    | nil => exact Lexer.delimited_cons rfl
    | cons m ns => exact Lexer.delimited_cons rfl

theorem cuts_numberLexemes (d : Dialect) (ns : List Int) (rest : List Char) :
    Lexeme.Cuts d (numberLexemes ns) rest := by
  cases ns with
  | nil => trivial
  | cons n ns =>
    refine ⟨Lexeme.mark_cutBefore rfl _, ?_⟩
    refine Lexeme.Cuts.append (cuts_ofInt d n ?_) (cuts_furtherNumbers d ns rest)
    cases ns with
    | nil => exact Lexer.delimited_cons rfl
    | cons m ns => exact Lexer.delimited_cons rfl

theorem delimited_numbers (ns : List Int) {rest : List Char} (hrest : Lexer.Delimited rest) :
    Lexer.Delimited (Lexeme.allWritten (numberLexemes ns) ++ rest) := by
  cases ns with
  | nil => exact hrest
  | cons n ns => exact Lexer.delimited_cons rfl

/-- The lexer finds the name and the numbers of a type. -/
theorem cuts {d : Dialect} {t : TypeWords} (ht : t.IsKnown d) {rest : List Char}
    (hrest : Lexer.Delimited rest) (hword : NoPrecision rest) : Lexeme.Cuts d t.lexemes rest := by
  refine ⟨?_, cuts_numberLexemes d t.numbers rest⟩
  have hdelimited := delimited_numbers t.numbers hrest
  rcases forall_forms d _ ht with hdouble | ⟨hname, hkind, hphrase⟩
  · simp only [Prod.mk.injEq] at hdouble
    rw [hdouble.1, hdouble.2]
    exact Lexeme.phrase_cutBefore_of_mem d (by decide) hdelimited
  · refine Lexeme.word_cutBefore hname hkind hdelimited fun q hq hfirst => ?_
    have hblank (p : List Char) (n : Int) (ns : List Int) : Lexer.NoWords (' ' :: p)
        (Lexeme.allWritten (numberLexemes (n :: ns)) ++ rest) := by
      refine .of_none (phraseSize?_eq_none_of_head ?_)
      simp [numberLexemes, Lexeme.mark, Lexeme.written]
      decide
    rcases hphrase q hq hfirst with ⟨hq, hlength⟩ | hq
    · rw [hq]
      cases hnumbers : t.numbers with
      | nil => rw [hnumbers] at hlength; exact (hlength rfl).elim
      | cons n ns => exact hblank "VARYING".toList n ns
    · rw [hq]
      cases hnumbers : t.numbers with
      | nil => exact hword
      | cons n ns => exact hblank "PRECISION".toList n ns

end TypeWords

end SchemaDesk.Ddl
