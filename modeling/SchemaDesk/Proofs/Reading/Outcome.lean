import Mathlib.Data.List.TakeWhile
import Mathlib.Tactic.Common
import SchemaDesk.Proofs.Sql.Lexing.Tokens
import SchemaDesk.Reading
/-!
What comes of reading a script. It gives a schema or one error with its place, unless a type has a parameter of
digits that form no numeral; such a script gives nothing at all.
-/

namespace SchemaDesk

open Sql

/-! ### Digits that form no numeral -/

/-- Digits that form no numeral, such as superscripts. -/
def IsOddNumeral (p : List Char) : Prop := Text.allDigits p = true ∧ Text.readNat? p = none

namespace Sql

/-- Some parameter in the text of the type is an odd numeral. -/
def TypeExpr.HasOddNumeral (d : Dialect) (t : TypeExpr) : Prop :=
  ∃ inner rest, Describe.splitParameters (t.render d).toList = some (inner, rest) ∧
    ∃ p ∈ inner.splitOnP (· == ','), IsOddNumeral (Text.stripChars p)

def TableItem.HasOddNumeral (d : Dialect) : TableItem → Prop
  | .column _ (some t) _ => t.HasOddNumeral d
  | _ => False

def Statement.HasOddNumeral (d : Dialect) : Statement → Prop
  | .createTable _ items => ∃ item ∈ items, item.HasOddNumeral d
  | _ => False

end Sql

/-- The script is well formed up to a table with an odd numeral in it. -/
def Script.HasOddNumeral (d : Dialect) (script : List Char) : Prop :=
  ∃ found types before s after, statements d script = .ok (found, types) ∧ found = before ++ s :: after ∧
    (∀ b ∈ before, checkCommand script b = .ok ()) ∧ s.HasOddNumeral d

namespace Sql.Describe

variable {d : Dialect}

theorem exists_mapM_eq_ok_iff {α β ε : Type} {f : α → Except ε β} {as : List α} :
    (∃ bs, as.mapM f = .ok bs) ↔ ∀ a ∈ as, ∃ b, f a = .ok b := by
  induction as with
  | nil => simp [pure, Except.pure]
  | cons a as ih =>
    rw [List.forall_mem_cons, ← ih, List.mapM_cons]
    cases ha : f a with
    | error e => simp [bind, Except.bind]
    | ok b =>
      cases has : as.mapM f with
      | error e => simp [bind, Except.bind]
      | ok bs => simp [bind, Except.bind, pure, Except.pure]

theorem exists_bind_eq_ok_iff {α β ε : Type} {x : Except ε α} {f : α → β} :
    (∃ b, (x >>= fun a => .ok (f a)) = .ok b) ↔ ∃ a, x = .ok a := by
  cases x <;> simp [bind, Except.bind]

theorem exists_numbers_eq_ok_iff {ps : List (List Char)} :
    (∃ ns, numbers ps = .ok ns) ↔ ∀ p ∈ ps, ¬ IsOddNumeral (Text.stripChars p) := by
  induction ps with
  | nil => simp [numbers]
  | cons p ps ih =>
    rw [List.forall_mem_cons, ← ih, numbers, IsOddNumeral]
    cases hdigits : Text.allDigits (Text.stripChars p) with
    | false => simp
    | true =>
      cases hnumber : Text.readNat? (Text.stripChars p) with
      | none => simp
      | some n => cases numbers ps <;> simp [Except.map]

/-- A type is described unless its text has an odd numeral. -/
theorem exists_dataType_eq_ok_iff {t : TypeExpr} {w : Option String} :
    (∃ v, dataType d (some t) w = .ok v) ↔ ¬ t.HasOddNumeral d := by
  rw [dataType]
  cases hsplit : splitParameters (t.render d).toList with
  | none => simp [TypeExpr.HasOddNumeral, hsplit, numbers, bind, Except.bind, pure, Except.pure]
  | some q =>
    obtain ⟨inner, rest⟩ := q
    have hodd : t.HasOddNumeral d ↔ ¬ ∀ p ∈ inner.splitOnP (· == ','), ¬ IsOddNumeral (Text.stripChars p) := by
      simp [TypeExpr.HasOddNumeral, hsplit]
    rw [hodd, not_not, ← exists_numbers_eq_ok_iff]
    exact exists_bind_eq_ok_iff

theorem exists_tableItem_eq_ok_iff {types : List (String × String)} {item : TableItem} :
    (∃ v, tableItem d types item = .ok v) ↔ ¬ item.HasOddNumeral d := by
  cases item with
  | rule i r => simp [tableItem, TableItem.HasOddNumeral]
  | value i e => simp [tableItem, TableItem.HasOddNumeral]
  | column name type constraints =>
    rw [tableItem, column]
    cases type with
    | none => simp [dataType, TableItem.HasOddNumeral, bind, Except.bind, pure, Except.pure]
    | some t =>
      have htype := exists_dataType_eq_ok_iff (d := d) (t := t) (w := SourceType.ofColumn? types name.plainName)
      rw [TableItem.HasOddNumeral, ← htype]
      exact exists_bind_eq_ok_iff

theorem exists_statement_eq_ok_iff {types : SourceType.Types} {s : Statement} :
    (∃ v, statement d types s = .ok v) ↔ ¬ s.HasOddNumeral d := by
  cases s with
  | createTable t items =>
    have hitems (columns : List (String × String)) :
        (∃ vs, items.mapM (tableItem d columns) = .ok vs) ↔ ¬ (Statement.createTable t items).HasOddNumeral d := by
      rw [exists_mapM_eq_ok_iff, Statement.HasOddNumeral]
      simp only [exists_tableItem_eq_ok_iff, not_exists, not_and]
    rw [statement, ← hitems]
    exact exists_bind_eq_ok_iff
  | create | alter | command | other => simp [statement, Statement.HasOddNumeral]

end Sql.Describe

/-! ### Descriptions of scripts -/

namespace Script

variable {d : Dialect} {script : List Char} {types : SourceType.Types} {ss : List Statement}

theorem checkCommand_cases (script : List Char) (s : Statement) :
    checkCommand script s = .ok () ∨ ∃ report, checkCommand script s = .error (.syntaxError report) := by
  unfold checkCommand
  split
  · split
    · exact Or.inr ⟨_, rfl⟩
    · exact Or.inl rfl
  · exact Or.inl rfl

theorem checkCommand_of_hasOddNumeral {s : Statement} (h : s.HasOddNumeral d) : checkCommand script s = .ok () := by
  cases s with
  | createTable => rfl
  | create | alter | command | other => cases h

/-- Descriptions fail at the first statement with an odd numeral, if no command before it is at fault. -/
theorem describe_fails_iff : (∃ f, describe d script types ss = .error (.other f)) ↔
    ∃ before s after, ss = before ++ s :: after ∧ (∀ b ∈ before, checkCommand script b = .ok ()) ∧
      s.HasOddNumeral d := by
  induction ss with
  | nil => simp [describe]
  | cons s ss ih =>
    have hsplit : (∃ before t after, s :: ss = before ++ t :: after ∧ (∀ b ∈ before, checkCommand script b = .ok ()) ∧
        t.HasOddNumeral d) ↔ s.HasOddNumeral d ∨ checkCommand script s = .ok () ∧
          ∃ before t after, ss = before ++ t :: after ∧ (∀ b ∈ before, checkCommand script b = .ok ()) ∧
            t.HasOddNumeral d := by
      constructor
      · rintro ⟨before, t, after, heq, hbefore, ht⟩
        cases before with
        | nil =>
          obtain ⟨rfl, -⟩ := List.cons.inj heq
          exact Or.inl ht
        | cons b before =>
          obtain ⟨rfl, rfl⟩ := List.cons.inj heq
          rw [List.forall_mem_cons] at hbefore
          exact Or.inr ⟨hbefore.1, before, t, after, rfl, hbefore.2, ht⟩
      · rintro (hs | ⟨hs, before, t, after, rfl, hbefore, ht⟩)
        · exact ⟨[], s, ss, rfl, nofun, hs⟩
        · exact ⟨s :: before, t, after, rfl, List.forall_mem_cons.mpr ⟨hs, hbefore⟩, ht⟩
    rw [hsplit, ← ih, describe]
    rcases checkCommand_cases script s with hs | ⟨report, hs⟩
    · by_cases hodd : s.HasOddNumeral d
      · have hfails : ∃ f, Describe.statement d types s = .error f := by
          cases hv : Describe.statement d types s with
          | error f => exact ⟨f, rfl⟩
          | ok v => exact (Describe.exists_statement_eq_ok_iff.mp ⟨v, hv⟩ hodd).elim
        obtain ⟨f, hf⟩ := hfails
        simp [hs, hf, hodd, bind, Except.bind, throw, throwThe, MonadExceptOf.throw]
      · obtain ⟨v, hv⟩ : ∃ v, Describe.statement d types s = .ok v := Describe.exists_statement_eq_ok_iff.mpr hodd
        cases describe d script types ss <;> simp [hs, hv, hodd, bind, Except.bind, pure, Except.pure]
    · have hodd : ¬ s.HasOddNumeral d := fun h => by
        rw [checkCommand_of_hasOddNumeral h] at hs
        cases hs
      simp [hs, hodd, bind, Except.bind]

theorem read_fails_iff {script : String} :
    (∃ f, read d script = .error (.other f)) ↔ HasOddNumeral d script.toList := by
  rw [read, HasOddNumeral]
  cases hs : statements d script.toList with
  | error report => simp
  | ok q =>
    obtain ⟨found, types⟩ := q
    simp only [describe_fails_iff, Except.ok.injEq, Prod.mk.injEq]
    constructor
    · rintro ⟨before, s, after, h⟩
      exact ⟨found, types, before, s, after, ⟨rfl, rfl⟩, h⟩
    · rintro ⟨_, _, before, s, after, ⟨rfl, rfl⟩, h⟩
      exact ⟨before, s, after, h⟩

end Script

/-! ### Extraction from descriptions -/

/-- If there is no result, then because of an odd numeral. -/
def FailsByNumeral {α : Type} (x : Except Failure α) : Prop := ∀ f, x = .error f → ∃ p, f = .invalidNumeral p

namespace FailsByNumeral

variable {α β : Type} {x : Except Failure α}

theorem of_error (h : FailsByNumeral x) {e : Failure} (he : x = .error e) : FailsByNumeral (.error e : Except Failure β) := by
  rintro f ⟨⟩
  exact h e he

theorem map (h : FailsByNumeral x) (f : α → β) : FailsByNumeral (x.map f) := by
  cases hx : x with
  | error e => exact h.of_error hx
  | ok a => exact nofun

end FailsByNumeral

namespace Extraction

theorem failsByNumeral_toInt? (v : Value) : FailsByNumeral v.toInt? := by
  rw [Value.toInt?]
  split
  · exact nofun
  · exact nofun
  · dsimp only
    split
    · split
      · exact nofun
      · rintro f ⟨⟩
        exact ⟨_, rfl⟩
    · exact nofun
  · exact nofun

theorem failsByNumeral_numbersOf (vs : List Value) : FailsByNumeral (ColumnDefinition.numbersOf vs) := by
  induction vs with
  | nil => exact nofun
  | cons v vs ih =>
    have hv := failsByNumeral_toInt? v
    rw [ColumnDefinition.numbersOf]
    cases hint : v.toInt? with
    | error e => exact hv.of_error hint
    | ok n => exact ih.map _

theorem failsByNumeral_writtenNumbers (v : Value) : FailsByNumeral (ColumnDefinition.writtenNumbers v) := by
  have hfields : FailsByNumeral (ColumnDefinition.fieldNumbers v) := by
    unfold ColumnDefinition.fieldNumbers
    split
    · exact nofun
    · exact failsByNumeral_numbersOf _
    · have hw := failsByNumeral_toInt? (ColumnDefinition.innerField v "length")
      split
      · next e he => exact hw.of_error he
      · exact nofun
      · exact (failsByNumeral_toInt? _).map _
  have hsuffix : FailsByNumeral (ColumnDefinition.suffixNumbers v) := by
    unfold ColumnDefinition.suffixNumbers
    split
    · exact nofun
    · exact failsByNumeral_numbersOf _
  unfold ColumnDefinition.writtenNumbers
  split
  · exact hsuffix
  · exact hfields

theorem failsByNumeral_definitions (vs : List Value) : FailsByNumeral (definitions vs) := by
  have hvalue (v : Value) : FailsByNumeral (ColumnDefinition.ofValue? v) := by
    unfold ColumnDefinition.ofValue?
    split
    · exact nofun
    · split
      · exact nofun
      · dsimp only
        split
        · exact nofun
        · exact (failsByNumeral_writtenNumbers v).map _
  induction vs with
  | nil => exact nofun
  | cons v vs ih =>
    have hv := hvalue v
    rw [definitions]
    cases hvalue : ColumnDefinition.ofValue? v with
    | error e => exact hv.of_error hvalue
    | ok n => exact ih.map _

theorem failsByNumeral_sourcesFrom (serial : Nat) (found : List TableSource) (vs : List Value) :
    FailsByNumeral (sourcesFrom serial found vs) := by
  induction vs generalizing serial found with
  | nil => exact nofun
  | cons v vs ih =>
    rw [sourcesFrom]
    split
    · exact ih serial found
    · next name _ =>
      split
      · exact ih serial found
      · have hsource : FailsByNumeral (source? serial name v) := (failsByNumeral_definitions _).map _
        split
        · next e he => exact hsource.of_error he
        · exact ih serial found
        · exact ih _ _

theorem failsByNumeral_ofStatements (serial : Nat) (vs : List Value) : FailsByNumeral (Schema.ofStatements serial vs) :=
  (failsByNumeral_sourcesFrom serial [] vs).map _

end Extraction

/-! ### Errors -/

namespace Text

theorem newline_notMem_toDigits (n : Nat) : '\n' ∉ Nat.toDigits 16 n := by
  induction n using Nat.strongRecOn with
  | ind n ih =>
    rw [Nat.toDigits_eq_if (by decide)]
    split
    · simp
    · next hn =>
      rw [List.mem_append, not_or]
      exact ⟨ih (n / 16) (by omega), by simp⟩

theorem newline_notMem_hexDigits (width n : Nat) : '\n' ∉ hexDigits width n := by
  rw [hexDigits, List.mem_append, not_or]
  exact ⟨fun h => absurd (List.eq_of_mem_replicate h) (by decide), newline_notMem_toDigits n⟩

/-- A quoted text is one line. -/
theorem newline_notMem_quoted (s : String) : '\n' ∉ (quoted s).toList := by
  have hchar (mark c : Char) (hmark : mark ≠ '\n') : '\n' ∉ quotedChar mark c := by
    have hhex (x : Char) (hx : x ≠ '\n') (width n : Nat) : '\n' ∉ '\\' :: x :: hexDigits width n := by
      simp [newline_notMem_hexDigits, hx.symm]
    unfold quotedChar
    split
    · next hc =>
      rw [Bool.or_eq_true, beq_iff_eq, beq_iff_eq] at hc
      have hne : c ≠ '\n' := by rcases hc with rfl | rfl <;> [exact hmark; decide]
      simp [hne.symm]
    · split
      · decide
      · next hc =>
        split
        · decide
        · split
          · decide
          · split
            · rw [List.mem_singleton]
              exact fun h => hc (beq_iff_eq.mpr h.symm)
            · split
              · exact hhex 'x' (by decide) _ _
              · split
                · exact hhex 'u' (by decide) _ _
                · exact hhex 'U' (by decide) _ _
  have hmark (b : Bool) : (if b then '"' else '\'') ≠ '\n' := by cases b <;> decide
  obtain ⟨mark, hne, hquoted⟩ : ∃ mark : Char, mark ≠ '\n' ∧
      quoted s = String.ofList (mark :: s.toList.flatMap (quotedChar mark) ++ [mark]) :=
    ⟨_, hmark (s.contains '\'' && !s.contains '"'), rfl⟩
  rw [hquoted, String.toList_ofList]
  simp [hne.symm, hchar mark _ hne]

end Text

namespace ScriptError

/-- The message is one line, and the place is counted from one. -/
structure IsProper (e : ScriptError) : Prop where
  message : '\n' ∉ e.message.toList
  line : 1 ≤ e.line
  column : 1 ≤ e.column

theorem isProper_invalidNumeral (p : String) :
    IsProper { message := "Parsing error: " ++ (Failure.invalidNumeral p).message } := by
  have hfront : '\n' ∉ "Parsing error: ".toList := by decide
  have hback : '\n' ∉ "invalid literal for int() with base 10: ".toList := by decide +kernel
  have hmessage : (Failure.invalidNumeral p).message =
      "invalid literal for int() with base 10: " ++ Text.quoted p := rfl
  refine ⟨?_, le_refl 1, le_refl 1⟩
  rw [hmessage, String.toList_append, String.toList_append, List.mem_append, List.mem_append, not_or, not_or]
  exact ⟨hfront, hback, Text.newline_notMem_quoted p⟩

end ScriptError

theorem SyntaxReport.newline_notMem_summary (r : SyntaxReport) : '\n' ∉ r.summary.toList := by
  have hbreak : Text.isLineBreak '\n' = true := by decide
  rw [summary, Text.firstLine?]
  split
  · decide
  · rw [Option.getD_some, String.toList_ofList]
    intro h
    simpa [hbreak] using List.mem_takeWhile_imp h

theorem ErrorReport.position_known (n : Option Nat) : ∃ m, position (Reading.known n) = .ok m := by
  cases n <;> exact ⟨_, rfl⟩

namespace Reading

/-- A report becomes one error, whatever place it gives. -/
theorem exists_ofReport (r : SyntaxReport) : ∃ e, ofReport r = .ok e ∧ e.IsProper := by
  obtain ⟨line, hline⟩ := ErrorReport.position_known (r.place.map (·.line))
  obtain ⟨column, hcolumn⟩ := ErrorReport.position_known (r.place.map (·.column))
  have hnone (name : String) : ErrorReport.position (Value.null.get name) = .ok 0 := rfl
  have hpositive (n : Nat) : 1 ≤ if n == 0 then 1 else n := by
    split
    · decide
    · next hn => exact Nat.one_le_iff_ne_zero.mpr (by simpa using hn)
  simp only [ofReport, ErrorReport.locate, ErrorReport.positionOr, hnone, hline, hcolumn]
  exact ⟨_, rfl, r.newline_notMem_summary, hpositive _, hpositive _⟩

/-- A schema without errors, or one error without a schema. -/
def IsProper (r : Reading) : Prop :=
  r.succeeded = true ∧ r.errors = [] ∨
    r.succeeded = false ∧ r.result = {} ∧ ∃ e, r.errors = [e] ∧ e.IsProper

theorem isProper_schema (s : Schema) : (Reading.schema s).IsProper := Or.inl ⟨rfl, rfl⟩

theorem isProper_error {e : ScriptError} (he : e.IsProper) : (Reading.error e).IsProper :=
  Or.inr ⟨rfl, rfl, e, rfl, he⟩

/-- Nothing comes of a script with an odd numeral, and of every other one something proper. -/
theorem exists_ofScript_iff (serial : Nat) (script : String) (d : Dialect) :
    (∃ r next, ofScript serial script d = .ok (r, next) ∧ r.IsProper) ↔
      Text.strip script = "" ∨ ¬ Script.HasOddNumeral d script.toList := by
  rw [← Script.read_fails_iff, ofScript]
  by_cases hblank : Text.strip script = ""
  · simp [hblank, isProper_schema]
  · rw [if_neg (by simpa using hblank)]
    cases hread : Script.read d script with
    | error f =>
      cases f with
      | other f => simp [hblank]
      | syntaxError report =>
        obtain ⟨e, he, hproper⟩ := exists_ofReport report
        simp [he, Except.map, isProper_error hproper]
    | ok statements =>
      cases hschema : Schema.ofStatements serial statements with
      | error f =>
        obtain ⟨p, rfl⟩ := Extraction.failsByNumeral_ofStatements serial statements f hschema
        simp [hschema, isProper_error (ScriptError.isProper_invalidNumeral p)]
      | ok q => simp [hschema, isProper_schema]

/-! ### The contract of reading -/

/-- What a caller may rely on: only a dialect that is not known is refused, and before the script is looked at;
otherwise there is a schema or one error, and validation tells the same. -/
structure KeepsContract (script : String) (dialect : Value) : Prop where
  unknown : (∀ d, Dialect.ofValue dialect ≠ .ok d) →
    parse script dialect = .error (.unsupportedDialect dialect.display) ∧
      validate script dialect = .error (.unsupportedDialect dialect.display)
  known : ∀ d, Dialect.ofValue dialect = .ok d →
    ∃ r, parse script dialect = .ok r ∧ r.IsProper ∧
      validate script dialect = .ok { valid := r.succeeded, errors := r.errors }

theorem parse_of_unknown (script : String) {dialect : Value} (h : ∀ d, Dialect.ofValue dialect ≠ .ok d) :
    parse script dialect = .error (.unsupportedDialect dialect.display) := by
  have hrefused : Dialect.ofValue dialect = .error (.unsupportedDialect dialect.display) := by
    unfold Dialect.ofValue at h ⊢
    split at h
    · next d hname => exact (h d rfl).elim
    · rfl
  simp [parse, hrefused, bind, Except.bind]

theorem parse_of_known (script : String) {dialect : Value} {d : Dialect} (h : Dialect.ofValue dialect = .ok d) :
    parse script dialect = (ofScript 0 script d).map Prod.fst := by
  cases hr : ofScript 0 script d <;> simp [parse, h, hr, bind, Except.bind, pure, Except.pure, Except.map]

theorem validate_of_parse {script : String} {dialect : Value} {r : Reading} (h : parse script dialect = .ok r) :
    validate script dialect = .ok { valid := r.succeeded, errors := r.errors } := by
  simp [validate, h, bind, Except.bind, pure, Except.pure]

theorem validate_of_parse_error {script : String} {dialect : Value} {f : Failure}
    (h : parse script dialect = .error f) : validate script dialect = .error f := by
  simp [validate, h, bind, Except.bind]

end Reading

/-! ### A numeral of a superscript digit -/

namespace Script

/-- A script with a digit that `Text.allDigits` takes for one and `Text.readNat?` does not. -/
def superscript : String := "CREATE TABLE t (a VARCHAR(²));"

def superscriptTokens : List Token := [
  ⟨.keyword "CREATE", "CREATE", 0, 5, []⟩, ⟨.keyword "TABLE", "TABLE", 7, 11, []⟩, ⟨.word, "t", 13, 13, []⟩,
  ⟨.mark "(", "(", 15, 15, []⟩, ⟨.word, "a", 16, 16, []⟩, ⟨.type "VARCHAR", "VARCHAR", 18, 24, []⟩,
  ⟨.mark "(", "(", 25, 25, []⟩, ⟨.number, "²", 26, 26, []⟩, ⟨.mark ")", ")", 27, 27, []⟩,
  ⟨.mark ")", ")", 28, 28, []⟩, ⟨.mark ";", ";", 29, 29, []⟩]

theorem tokens?_superscript : Lexer.tokens? .postgresql superscript.toList = some superscriptTokens := by
  have hitems : Lexer.items .postgresql 0 0 superscript.toList = some (superscriptTokens.map .token) := by
    decide +kernel
  have hattach : Lexer.attach superscript.toList [] 0 [] (superscriptTokens.map .token) = superscriptTokens := by
    decide
  have hswallows : ∀ t ∈ superscriptTokens, Lexer.swallows .postgresql t = false := by decide
  rw [Lexer.tokens?, hitems, Option.map_some, hattach, Lexer.swallow_eq_self hswallows]

/-- The name and the only parameter of the type, if there is one column with such a type and nothing else. -/
def onlyParameter? : Except SyntaxFault (List Statement) → Option (String × String)
  | .ok [.createTable _ [.column _ (some (.named name [.number n])) _]] => some (name, n)
  | _ => none

theorem exists_of_onlyParameter? {x : Except SyntaxFault (List Statement)} {name n : String}
    (h : onlyParameter? x = some (name, n)) :
    ∃ t c cs, x = .ok [.createTable t [.column c (some (.named name [.number n])) cs]] := by
  unfold onlyParameter? at h
  split at h
  · cases h
    exact ⟨_, _, _, rfl⟩
  · cases h

theorem hasOddNumeral_superscript : HasOddNumeral .postgresql superscript.toList := by
  obtain ⟨t, c, cs, hscript⟩ : ∃ t c cs, Grammar.script .postgresql superscript.toList superscriptTokens =
      .ok [.createTable t [.column c (some (.named "VARCHAR" [.number "²"])) cs]] :=
    exists_of_onlyParameter? (by decide +kernel)
  have hrender : (TypeExpr.named "VARCHAR" [.number "²"]).render .postgresql = "VARCHAR(²)" := by
    simp only [TypeExpr.render, Expr.renders, Expr.render]
    decide +kernel
  have hsplit : Describe.splitParameters "VARCHAR(²)".toList = some (['²'], "VARCHAR".toList) := by
    decide +kernel
  have htype : (TypeExpr.named "VARCHAR" [.number "²"]).HasOddNumeral .postgresql :=
    ⟨['²'], "VARCHAR".toList, by rw [hrender, hsplit], ['²'], by decide, by constructor <;> decide +kernel⟩
  have htable : (Statement.createTable t [.column c (some (.named "VARCHAR" [.number "²"])) cs]).HasOddNumeral
      .postgresql :=
    ⟨_, List.mem_singleton_self _, htype⟩
  have hstatements : statements .postgresql superscript.toList =
      .ok ([.createTable t [.column c (some (.named "VARCHAR" [.number "²"])) cs]],
        SourceType.all superscriptTokens) := by
    simp only [statements, tokens?_superscript, hscript]
  exact ⟨_, _, [], _, [], hstatements, rfl, List.forall_mem_nil _, htable⟩

end Script

end SchemaDesk
