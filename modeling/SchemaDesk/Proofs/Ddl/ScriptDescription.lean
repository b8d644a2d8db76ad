import SchemaDesk.Proofs.Ddl.KeyDescription
import SchemaDesk.Reading
/-!
How whole scripts are described: each definition by its own description, in their order.
-/

namespace SchemaDesk.Ddl

open Sql

variable {d : Dialect}

namespace Definition

def description (d : Dialect) : Definition → Value
  | table x => x.description d
  | key k => k.description

/-- The definition with the type words that are found for its columns. -/
def typed : Definition → Definition
  | table x => table x.typed
  | key k => key k

/-- The columns of a table have different names. -/
def HasDistinctColumns : Definition → Prop
  | table x => x.HasDistinctColumns
  | key _ => True

theorem typed_eq_self {x : Definition} (h : x.HasDistinctColumns) : x.typed = x := by
  cases x with
  | table x => exact congrArg table (CreateTable.typed_eq_self h)
  | key k => rfl

theorem statement_eq {x : Definition} (hx : x.IsValid d) (hread : x.IsRead d) {types : SourceType.Types}
    (htypes : ∀ p ∈ x.sourceTypes?, types.lookup p.1 = some p.2) :
    Describe.statement d types (x.statement d) = .ok (x.typed.description d) := by
  cases x with
  | table x => exact CreateTable.statement_eq hx hread (htypes _ rfl)
  | key k => exact AddKey.statement_eq hx types

/-- No definition is a mere command. -/
theorem checkCommand_statement (text : List Char) (x : Definition) :
    Script.checkCommand text (x.statement d) = .ok () := by
  cases x <;> rfl

end Definition

/-- The description of a semicolon with notes behind it. -/
def IsRemarkDescription (rest : List Value) : Prop := rest = [] ∨ rest = [Describe.tagged "semicolon" []]

theorem describe_remark {rest : List Statement} (hrest : IsRemark rest) (text : List Char)
    (types : SourceType.Types) :
    ∃ vs, IsRemarkDescription vs ∧ Script.describe d text types rest = .ok vs := by
  rcases hrest with rfl | rfl
  · exact ⟨[], Or.inl rfl, rfl⟩
  · exact ⟨_, Or.inr rfl, rfl⟩

theorem describe_cons {s : Statement} {ss : List Statement} {v : Value} {vs : List Value} {text : List Char}
    {types : SourceType.Types} (hcommand : Script.checkCommand text s = .ok ())
    (hv : Describe.statement d types s = .ok v) (hvs : Script.describe d text types ss = .ok vs) :
    Script.describe d text types (s :: ss) = .ok (v :: vs) := by
  rw [Script.describe, hcommand, hv, hvs]
  rfl

/-- Definitions are described one after the other. -/
theorem describe_definitions {xs : List Definition} (hvalid : ∀ x ∈ xs, x.IsValid d) (hread : ∀ x ∈ xs, x.IsRead d)
    {types : SourceType.Types} (htypes : ∀ x ∈ xs, ∀ p ∈ x.sourceTypes?, types.lookup p.1 = some p.2)
    {text : List Char} {rest : List Statement} {vs : List Value} (hrest : Script.describe d text types rest = .ok vs) :
    Script.describe d text types (xs.map (Definition.statement d) ++ rest) =
      .ok (xs.map (fun x => x.typed.description d) ++ vs) := by
  induction xs with
  | nil => exact hrest
  | cons x xs ih =>
    have hxs := ih (fun y hy => hvalid y (by simp [hy])) (fun y hy => hread y (by simp [hy])) fun y hy =>
      htypes y (by simp [hy])
    exact describe_cons (x.checkCommand_statement text)
      (Definition.statement_eq (hvalid x (by simp)) (hread x (by simp)) (htypes x (by simp))) hxs

namespace Page

variable {p : Page}

/-- The tables of the page have different names. -/
def HasDistinctTables (p : Page) : Prop := ((p.definitions.filterMap Definition.sourceTypes?).map Prod.fst).Nodup

theorem IsValid.definitions (hp : p.IsValid d) : ∀ x ∈ p.definitions, x.IsValid d := by
  intro x hx
  obtain ⟨e, he, hx⟩ := List.mem_filterMap.mp hx
  cases e with
  | gap => cases hx
  | note text => cases hx
  | definition y =>
    obtain rfl := Option.some.inj hx
    exact hp _ he

/-- A page is described by its definitions, if all of them are read. -/
theorem read_eq (hp : p.IsValid d) (hread : ∀ x ∈ p.definitions, x.IsRead d) (hnames : p.HasDistinctTables) :
    ∃ rest, IsRemarkDescription rest ∧
      Script.read d (String.ofList p.written) = .ok (p.definitions.map (fun x => x.typed.description d) ++ rest) := by
  obtain ⟨ts, htokens, hsplits⟩ := tokens?_eq hp
  obtain ⟨found, hremark, hscript⟩ := script_read hsplits hp.definitions hread p.written
  obtain ⟨rest, hrest, hdescribe⟩ := describe_remark (d := d) hremark p.written (SourceType.all ts)
  refine ⟨rest, hrest, ?_⟩
  have htypes := all_eq_filterMap hsplits hp.definitions
  rw [Script.read, Script.statements, String.toList_ofList, htokens]
  simp only [hscript]
  refine describe_definitions hp.definitions hread (fun x hx q hq => ?_) hdescribe
  rw [htypes]
  exact CreateTable.lookup_of_mem hnames (List.mem_filterMap.mpr ⟨x, hx, hq⟩)

/-- A page with a definition that is not read as a whole is a fault. -/
theorem read_stuck (hp : p.IsValid d) (hread : ∀ x ∈ p.definitions, x.IsRead d ∨ x.IsStuck d)
    (hstuck : ∃ x ∈ p.definitions, x.IsStuck d) :
    ∃ report, Script.read d (String.ofList p.written) = .error (.syntaxError report) := by
  obtain ⟨ts, htokens, hsplits⟩ := tokens?_eq hp
  obtain ⟨f, hf⟩ := script_stuck hsplits hp.definitions hread hstuck p.written
  refine ⟨.ofFault p.written f, ?_⟩
  rw [Script.read, Script.statements, String.toList_ofList, htokens]
  simp only [hf]

end Page

end SchemaDesk.Ddl
