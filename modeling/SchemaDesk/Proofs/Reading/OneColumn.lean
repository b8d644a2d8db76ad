import SchemaDesk.Proofs.Sql.ColumnDescription
/-!
Scripts that can be read by evaluation: those of one statement, among them tables with one column, and those that are
refused as a whole.
-/

namespace SchemaDesk

open Sql Ddl

namespace Script

variable {d : Dialect} {cs : List Char} {ts : List Token}

/-- The tokens of a script in which no word is a command, which would take the rest of its statement. -/
def plainTokens? (d : Dialect) (cs : List Char) : Option (List Token) :=
  ((Lexer.items d 0 0 cs).map (Lexer.attach cs [] 0 [])).filter fun ts => ts.all fun t => !Lexer.swallows d t

theorem tokens?_of_plainTokens? (h : plainTokens? d cs = some ts) : Lexer.tokens? d cs = some ts := by
  obtain ⟨hattach, hplain⟩ := Option.filter_eq_some_iff.mp h
  obtain ⟨is, hitems, rfl⟩ := Option.map_eq_some_iff.mp hattach
  rw [Lexer.tokens?, hitems, Option.map_some, Lexer.swallow_eq_self]
  simpa using hplain

/-- Whether the grammar makes nothing of the tokens, or there are none because a text has no end. -/
def isRefused (d : Dialect) (cs : List Char) : Bool :=
  ((plainTokens? d cs).any fun ts => !(Grammar.script d cs ts).toBool) || (Lexer.items d 0 0 cs).isNone

theorem exists_statements_error (h : isRefused d cs = true) : ∃ report, statements d cs = .error report := by
  rw [isRefused, Bool.or_eq_true] at h
  rcases h with hscript | hitems
  · obtain ⟨ts, hts, hfails⟩ := (Option.any_eq_true _ _).mp hscript
    cases hgrammar : Grammar.script d cs ts with
    | error f =>
      refine ⟨.ofFault cs f, ?_⟩
      simp only [statements, tokens?_of_plainTokens? hts, hgrammar]
    | ok found => simp [hgrammar, Except.toBool] at hfails
  · refine ⟨.unclosed cs, ?_⟩
    simp only [statements, Lexer.tokens?, Option.isNone_iff_eq_none.mp hitems, Option.map_none]

theorem statements_of_chunk {chunk : List Token} {x : Statement} (htokens : Lexer.tokens? d cs = some ts)
    (hchunks : Grammar.chunks ts = [chunk]) (hread : Grammar.statementOfChunk d cs chunk = .ok (some x)) :
    statements d cs = .ok ([x], SourceType.all ts) := by
  have hgrammar : Grammar.script d cs ts = .ok [x] := by
    rw [Grammar.script, hchunks, List.mapM_cons, hread, List.mapM_nil]
    rfl
  simp only [statements, htokens, hgrammar]

/-- The clause, if it is one of those on defaults and unique values. -/
def clause? : ColumnConstraint → Option Clause
  | ⟨none, some (.default (.text s)), []⟩ => some (.default (.text s.toList))
  | ⟨none, some (.default (.number s)), []⟩ => some (.default (.number false s.toList))
  | ⟨none, some (.unique none none), []⟩ => some .unique
  | _ => none

theorem eq_of_clause? {c : ColumnConstraint} {x : Clause} (h : clause? c = some x) : c = x.constraint d := by
  unfold clause? at h
  split at h
  · obtain rfl := Option.some.inj h
    simp [Clause.constraint, Clause.rule, Literal.expr]
  · obtain rfl := Option.some.inj h
    simp [Clause.constraint, Clause.rule, Literal.expr]
  · obtain rfl := Option.some.inj h
    rfl
  · cases h

/-- A table of one column. -/
structure OneColumn where
  table : Ident
  column : Ident
  type : String
  clauses : List Clause
  deriving DecidableEq

namespace OneColumn

def statement (d : Dialect) (x : OneColumn) : Statement :=
  .createTable ⟨[], x.table, []⟩
    [.column (.name x.column) (some (.named x.type [])) (x.clauses.map (Clause.constraint d))]

/-- The table that is the only statement. -/
def ofStatements? : Except SyntaxFault (List Statement) → Option OneColumn
  | .ok [.createTable ⟨[], t, []⟩ [.column (.name c) (some (.named type [])) constraints]] =>
    (constraints.mapM clause?).map fun clauses => ⟨t, c, type, clauses⟩
  | _ => none

theorem eq_of_mapM_clause? {cs : List ColumnConstraint} {xs : List Clause} (h : cs.mapM clause? = some xs) :
    cs = xs.map (Clause.constraint d) := by
  induction cs generalizing xs with
  | nil =>
    obtain rfl := Option.some.inj h
    rfl
  | cons c cs ih =>
    rw [List.mapM_cons] at h
    obtain ⟨x, hx, hrest⟩ := Option.bind_eq_some_iff.mp h
    obtain ⟨ys, hys, hxs⟩ := Option.bind_eq_some_iff.mp hrest
    obtain rfl := Option.some.inj hxs
    rw [List.map_cons, ← ih hys, ← eq_of_clause? hx]

theorem eq_of_ofStatements? {r : Except SyntaxFault (List Statement)} {x : OneColumn} (h : ofStatements? r = some x) :
    r = .ok [x.statement d] := by
  unfold ofStatements? at h
  split at h
  · obtain ⟨clauses, hclauses, rfl⟩ := Option.map_eq_some_iff.mp h
    rw [statement, ← eq_of_mapM_clause? hclauses]
  · cases h

/-- The word for the type of the column. -/
def word? (types : SourceType.Types) (x : OneColumn) : Option String :=
  SourceType.ofColumn? (SourceType.ofTable types x.table.text) x.column.text

/-- The only table of a script, with the word for its type. -/
def find? (d : Dialect) (cs : List Char) : Option (OneColumn × String) :=
  (plainTokens? d cs).bind fun ts => (ofStatements? (Grammar.script d cs ts)).bind fun x =>
    (x.word? (SourceType.all ts)).map (x, ·)

theorem statements_of_find? {x : OneColumn} {word : String} (h : find? d cs = some (x, word)) :
    ∃ types, statements d cs = .ok ([x.statement d], types) ∧ x.word? types = some word := by
  obtain ⟨ts, hts, hfound⟩ := Option.bind_eq_some_iff.mp h
  obtain ⟨y, hy, hword⟩ := Option.bind_eq_some_iff.mp hfound
  obtain ⟨w, hw, hpair⟩ := Option.map_eq_some_iff.mp hword
  obtain ⟨rfl, rfl⟩ := Prod.mk.inj hpair
  refine ⟨SourceType.all ts, ?_, hw⟩
  simp only [statements, tokens?_of_plainTokens? hts, eq_of_ofStatements? (d := d) hy]

/-- The description of the table by its word for the type. -/
def description (d : Dialect) (x : OneColumn) (word : String) : Value :=
  let parts := (x.clauses.map (Clause.constraint d)).foldl (Describe.ColumnParts.add d) {}
  Describe.tagged "create" [
    ("keyword", .text "table"),
    ("table", Describe.tableRef ⟨[], x.table, []⟩),
    ("create_definitions", .list [.record ([
      ("resource", .text "column"),
      ("column", Describe.columnRef x.column.text),
      ("definition", .record [("dataType", .text (Text.collapse (Text.upper word)))])] ++ parts.toFields)])]

/-- A type without parameters is described by the word for it. -/
theorem statement_eq {x : OneColumn} {types : SourceType.Types} {word : String} (hname : x.table.text ≠ "")
    (hword : x.word? types = some word) (hne : word ≠ "")
    (hplain : Describe.splitParameters (TypeName.text d x.type []).toList = none) :
    Describe.statement d types (x.statement d) = .ok (x.description d word) := by
  have hrender : (TypeExpr.named x.type []).render d = TypeName.text d x.type [] := by
    simp only [TypeExpr.render, Expr.renders]
  refine Describe.statement_eq hname ?_
  rw [List.mapM_cons, List.mapM_nil, Describe.tableItem, Expr.plainName, ← word?, hword,
    Describe.column_eq hne (hrender ▸ hplain)]
  rfl

end OneColumn

end Script

namespace Reading

variable {d : Dialect} {text word : String} {x : Script.OneColumn} {s : Schema} {serial next : Nat}

theorem ofScript_of_statement {types : SourceType.Types} {statement : Statement} {v : Value}
    (hstatements : Script.statements d text.toList = .ok ([statement], types))
    (hcommand : Script.checkCommand text.toList statement = .ok ())
    (hdescribed : Describe.statement d types statement = .ok v)
    (hschema : Schema.ofStatements serial [v] = .ok (s, next)) (hblank : Text.strip text ≠ "") :
    ofScript serial text d = .ok (.schema s, next) := by
  have hread : Script.read d text = .ok [v] := by
    simp only [Script.read, hstatements, Script.describe, hcommand, hdescribed]
    rfl
  rw [ofScript, if_neg (by simpa using hblank), hread]
  simp only [hschema]

theorem ofScript_of_oneColumn (hfind : Script.OneColumn.find? d text.toList = some (x, word))
    (hname : x.table.text ≠ "") (hne : word ≠ "")
    (hplain : Describe.splitParameters (TypeName.text d x.type []).toList = none)
    (hschema : Schema.ofStatements serial [x.description d word] = .ok (s, next)) (hblank : Text.strip text ≠ "") :
    ofScript serial text d = .ok (.schema s, next) := by
  obtain ⟨types, hstatements, hword⟩ := Script.OneColumn.statements_of_find? hfind
  exact ofScript_of_statement hstatements rfl (Script.OneColumn.statement_eq hname hword hne hplain) hschema hblank

theorem ofScript_ne_of_isRefused (h : Script.isRefused d text.toList = true) (hblank : Text.strip text ≠ "")
    (serial : Nat) (p : Schema) (next : Nat) : ofScript serial text d ≠ .ok (.schema p, next) := by
  obtain ⟨report, hreport⟩ := Script.exists_statements_error h
  rw [ofScript, if_neg (by simpa using hblank), Script.read, hreport]
  intro hschema
  cases hplace : ofReport report with
  | error f => simp only [hplace] at hschema; cases hschema
  | ok e => simp only [hplace] at hschema; cases hschema

end Reading

end SchemaDesk
