import SchemaDesk.Proofs.Ddl.Rewriting
/-!
Texts as defaults. The default of a column that was read is written as it is, with no more than the quotation marks in
it written twice. All dialects read that back, but MySQL gives a meaning to the backslash as well.
-/

namespace SchemaDesk

open Sql Ddl

theorem Ddl.Literal.defaultText?_text (d : Dialect) (value : String) :
    (Describe.default d (.text value)).defaultText? = some (Literal.text value.toList).written := by
  have hdescription : (Describe.tagged "default" [("value", Describe.default d (.text value))]).defaultText? =
      some (Literal.text value.toList).written := by
    have h := (Literal.text value.toList).defaultText?_description (d := d)
    rwa [Literal.description, Literal.expr, String.ofList_toList] at h
  exact (Ddl.defaultText?_tagged "single_quote_string" (by decide) _).symm.trans hdescription

namespace Column

variable {d : Dialect} {c : Column} {k : Bool} {table : String}

/-- The statement that creates a table of the line of that column alone. -/
def statement (c : Column) (d : Dialect) (compositeKey : Bool) (table : String) : String :=
  "CREATE TABLE " ++ table ++ " (\n" ++ c.line d compositeKey ++ "\n);"

theorem toList_statement (c : Column) (d : Dialect) (k : Bool) (table : String) : (c.statement d k table).toList =
    "CREATE TABLE ".toList ++ (table.toList ++ (" (\n".toList ++ ((c.line d k).toList ++ "\n);".toList))) := by
  unfold statement
  simp only [String.toList_append, List.append_assoc]

theorem statement_ne_blank (c : Column) (d : Dialect) (k : Bool) (table : String) :
    Text.strip (c.statement d k table) ≠ "" := by
  have hblank : Text.isBlank 'C' = false := by decide
  refine Text.strip_ne_empty hblank ?_
  rw [toList_statement]
  exact List.mem_append_left _ (by decide)

def creation (c : Column) (d : Dialect) (k : Bool) (table : String) (x : Literal) : CreateTable :=
  { name := table
    first := c.lineWith d k (some x)
    more := [] }

def page (c : Column) (d : Dialect) (k : Bool) (table : String) (x : Literal) : Page :=
  { first := .definition (.table (c.creation d k table x))
    more := [] }

/-- A literal as the default is there to be written. -/
theorem map_written_of_default {x : Literal} (hfound : x.IsFound d) (hx : c.default = some x.written) :
    (some x).map Literal.written = c.default.filter (· != "") := by
  rw [hx, Option.filter_some, if_pos (by simpa using hfound.written_ne_empty), Option.map_some]

theorem statement_eq {x : Literal} (hfound : x.IsFound d) (hx : c.default = some x.written) :
    c.statement d k table = String.ofList (c.page d k table x).written := by
  have hline := toList_lineWith (d := d) (k := k) (map_written_of_default hfound hx)
  have hmargin : Lexeme.allWritten margin = '\n' :: indent.toList := by decide
  have hend : Lexeme.allWritten [.blank '\n', .mark ')'] = ['\n', ')'] := rfl
  refine String.toList_inj.mp ?_
  rw [String.toList_ofList, Page.written, Page.lexemes, page, Entry.lexemes, Definition.lexemes, creation,
    CreateTable.lexemes, CreateTable.lineLexemes, toList_statement, hline]
  simp only [Lexeme.allWritten_append, hmargin, hend]
  simp [Lexeme.mark, Lexeme.verbatim, Lexeme.written, Entry.restLexemes]

theorem isValid_page (htable : IsPlain d table) (hname : IsPlain d c.name) {x : Literal} (hx : x.IsFound d) :
    (c.page d k table x).IsValid d := by
  have hline : (c.lineWith d k (some x)).IsValid d :=
    isValid_lineWith hname fun y hy => Option.some.inj hy ▸ hx
  have htable : (c.creation d k table x).IsValid d := ⟨htable, List.forall_mem_singleton.mpr hline⟩
  exact List.forall_mem_singleton.mpr htable

theorem defines_page (c : Column) (d : Dialect) (k : Bool) (table : String) (x : Literal) :
    (c.page d k table x).Defines [c.creation d k table x] [] := rfl

theorem lastLiteral?_clauses (c : Column) (d : Dialect) (k : Bool) {x : Literal} (hnull : x ≠ .null) :
    Clause.lastLiteral? (c.frontClauses d k ++ backClauses d c.isUniqueAlone (some x)) = some x := by
  have hkept : (some x).any Literal.isNull = false := by
    cases x with
    | null => exact (hnull rfl).elim
    | number | text | bool | now => rfl
  rw [Clause.lastLiteral?_append, (c.frontClauses_say d k).2.1, Option.or_none, (backClauses_say d _ _).2.1, hkept,
    Bool.and_false, if_neg (by simp)]

end Column

namespace Schema

variable {d : Dialect} {c : Column} {k : Bool} {table text : String} {s p : Schema} {serial next : Nat}

/-- The schema is one table of that name with one column, which has the name and the default of the given one. -/
def HoldsDefault (p : Schema) (table : String) (c : Column) : Prop :=
  ∃ t b, p.tables = [t] ∧ t.name = table ∧ t.columns = [b] ∧ b.name = c.name ∧ b.default = c.default

theorem holdsDefault_of_tables {x : Literal} (hx : c.default = some x.written) (hnull : x ≠ .null)
    (hp : p.tables.map (Table.mapIds fun _ => .fresh 0) = [(c.creation d k table x).table]) :
    p.HoldsDefault table c := by
  obtain ⟨t, htables, ht⟩ := List.map_eq_singleton_iff.mp hp
  have hcolumns : t.columns.map (Column.mapIds fun _ => .fresh 0) =
      [Extraction.column 0 (Line.definition c.name (c.typeWords d)
        (c.frontClauses d k ++ Column.backClauses d c.isUniqueAlone (some x)))] := congrArg Table.columns ht
  obtain ⟨b, hb, hcolumn⟩ := List.map_eq_singleton_iff.mp hcolumns
  have hname : b.name = c.name := (congrArg Column.name hcolumn :)
  have hdefault : b.default = (Clause.lastLiteral?
      (c.frontClauses d k ++ Column.backClauses d c.isUniqueAlone (some x))).map Literal.written :=
    congrArg Column.default hcolumn
  rw [c.lastLiteral?_clauses d k hnull] at hdefault
  exact ⟨t, b, htables, congrArg Table.name ht, hb, hname, hdefault.trans hx.symm⟩

section Literal

variable (htable : IsPlain d table) (hname : IsPlain d c.name) (hnumbers : ∀ n ∈ (c.typeWords d).numbers, 0 ≤ n)
  {x : Literal} (hfound : x.IsFound d) (hx : c.default = some x.written) (hnull : x ≠ .null)

include htable hname hnumbers hfound hx hnull

/-- A column with a literal as its default is read with that default again, unless MySQL has the word `UNIQUE` in
front of it. -/
theorem exists_holdsDefault (hread : d = .mysql → c.isUniqueAlone = false) (serial : Nat) :
    ∃ p next, Reading.ofScript serial (c.statement d k table) d = .ok (.schema p, next) ∧ p.HoldsDefault table c := by
  have hline : (c.lineWith d k (some x)).IsRead d :=
    Column.isRead_lineWith hnumbers fun hd hu => absurd hu (by simp [hread hd])
  have hdistinct : (c.creation d k table x).HasDistinctColumns := List.nodup_singleton _
  have hdefinitions : (c.creation d k table x).definitions ≠ [] := List.cons_ne_nil _ _
  have heq : c.statement d k table = String.ofList (c.page d k table x).written := Column.statement_eq hfound hx
  obtain ⟨p, next, hp, htables⟩ :=
    Page.tables_ofScript (Column.isValid_page (k := k) htable hname hfound) (c.defines_page d k table x)
      (List.forall_mem_singleton.mpr (List.forall_mem_singleton.mpr hline))
      (List.forall_mem_singleton.mpr hdefinitions) (List.nodup_singleton _)
      (heq ▸ c.statement_ne_blank d k table) serial
  rw [List.map_singleton, CreateTable.typed_eq_self hdistinct] at htables
  exact ⟨p, next, heq ▸ hp, holdsDefault_of_tables hx hnull htables⟩

theorem ofScript_statement_ne (hd : d = .mysql) (hunique : c.isUniqueAlone = true) (serial : Nat) (p : Schema)
    (next : Nat) : Reading.ofScript serial (c.statement d k table) d ≠ .ok (.schema p, next) := by
  have hline : (c.lineWith d k (some x)).IsStuck d := Column.isStuck_lineWith hnumbers hd hunique hnull
  have hstuck : (c.creation d k table x).IsStuck d :=
    ⟨List.forall_mem_singleton.mpr (Or.inr hline), _, List.mem_singleton_self _, hline⟩
  have heq : c.statement d k table = String.ofList (c.page d k table x).written := Column.statement_eq hfound hx
  rw [heq]
  exact Page.ofScript_ne (Column.isValid_page (k := k) htable hname hfound) (c.defines_page d k table x)
    (List.forall_mem_singleton.mpr (Or.inr hstuck)) ⟨_, List.mem_singleton_self _, hstuck⟩
    (heq ▸ c.statement_ne_blank d k table) serial p next

end Literal

/-- A text with a quotation mark in it, and with a backslash that stands for itself. -/
def discount : Column := { id := .fresh 0, name := "a", type := .text, default := some "'it''s 5\\%'" }

end Schema

end SchemaDesk
