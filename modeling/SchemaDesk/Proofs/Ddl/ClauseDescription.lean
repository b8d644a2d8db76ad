import SchemaDesk.Definition.Column
import SchemaDesk.Proofs.Ddl.Clause
import SchemaDesk.Sql.Description
/-!
How the clauses of columns are described: the default with its text, what is said about null, and the
tags of all other clauses.
-/

namespace SchemaDesk.Ddl

open Sql

variable {d : Dialect}

/-! ### Defaults -/

theorem replaceFrom_quote (cs : List Char) :
    Text.replaceFrom ['\''] ['\'', '\''] 0 cs = Lexer.quoteText cs := by
  induction cs with
  | nil => rfl
  | cons c cs ih =>
    by_cases hc : c = '\''
    · subst hc
      rw [Lexer.quoteText_cons_quote, ← ih]
      rfl
    · have hstart : Text.startsWith ['\''] (c :: cs) = false := by
        simp [Text.startsWith, Text.dropStart?, Ne.symm hc]
      rw [Lexer.quoteText_cons_of_ne hc, ← ih, Text.replaceFrom, hstart]
      rfl

theorem replace_quote (cs : List Char) :
    Text.replace (String.ofList cs) "'" "''" = String.ofList (Lexer.quoteText cs) := by
  have hold : "'".toList = ['\''] := by decide
  have hnew : "''".toList = ['\'', '\''] := by decide
  unfold Text.replace Text.replaceChars
  rw [hold, hnew, ← replaceFrom_quote]
  simp

/-- The description of a default. -/
def Literal.description (d : Dialect) (x : Literal) : Value :=
  Describe.tagged "default" [("value", Describe.default d (x.expr d))]

/-- The text of a tagged value below the tag of a default. -/
theorem defaultText?_tagged (tag : String) (htag : tag ≠ "default") (v : Value) :
    (Describe.tagged "default" [("value", Describe.tagged tag [("value", v)])]).defaultText? =
      (Describe.tagged tag [("value", v)]).taggedText? := by
  have hvalue : (Describe.tagged tag [("value", v)]).untagged = Describe.tagged tag [("value", v)] := by
    have hnot : (Describe.tagged tag [("value", v)]).hasTag "default" = false := by
      show (tag == "default") = false
      simpa using htag
    rw [Describe.tagged] at hnot ⊢
    rw [Value.untagged, hnot]
    rfl
  have houter : (Describe.tagged "default" [("value", Describe.tagged tag [("value", v)])]).untagged =
      (Describe.tagged tag [("value", v)]).untagged := by
    have hdefault : (Value.hasTag (.record [("type", .text "default"),
        ("value", Describe.tagged tag [("value", v)])]) "default" &&
        Value.has (.record [("type", .text "default"),
          ("value", Describe.tagged tag [("value", v)])]) "value") = true := rfl
    rw [Describe.tagged, Value.untagged, hdefault, if_pos rfl, Value.untaggedField, if_neg (by decide),
      Value.untaggedField, if_pos (by decide)]
  rw [Value.defaultText?, houter, hvalue]
  rfl

theorem render_now (d : Dialect) :
    (Grammar.now d).render d = if d = .mysql then "CURRENT_TIMESTAMP()" else "CURRENT_TIMESTAMP" := by
  cases d <;> simp [Grammar.now, Function.named, Function.ofParts, Function.callParts, Function.bare,
    Part.list, Expr.render, Part.renders]

theorem exists_now (d : Dialect) : ∃ kind heart parts, Grammar.now d = .known kind heart parts := by
  cases d <;> exact ⟨_, _, _, rfl⟩

/-- A function is described by its name if its text ends with empty parentheses. -/
theorem default_known (kind : String) (heart : Option String) (parts : List Part) :
    Describe.default d (.known kind heart parts) =
      match (Text.dropEnd? ['(', ')'] ((Expr.known kind heart parts).render d).toList).map String.ofList with
      | some name => Describe.tagged "function"
          [("name", .record [("name", .list [Describe.tagged "default" [("value", .text name)]])])]
      | none => Describe.tagged "expression" [("value", .text ((Expr.known kind heart parts).render d))] := rfl

theorem defaultText?_now (d : Dialect) :
    (Describe.tagged "default" [("value", Describe.default d (Grammar.now d))]).defaultText? =
      some "CURRENT_TIMESTAMP" := by
  have hrender := render_now d
  obtain ⟨kind, heart, parts, hnow⟩ := exists_now d
  rw [hnow] at hrender ⊢
  rw [default_known, hrender]
  cases d with
  | mysql =>
    have hname : (Text.dropEnd? ['(', ')'] "CURRENT_TIMESTAMP()".toList).map String.ofList =
        some "CURRENT_TIMESTAMP" := by decide +kernel
    simp only [if_true, hname]
    decide +kernel
  | postgresql | sqlite =>
    have hname : Text.dropEnd? ['(', ')'] "CURRENT_TIMESTAMP".toList = none := by decide +kernel
    simp only [reduceCtorEq, if_false, hname]
    decide +kernel

/-- The text of a default is what was written. -/
theorem Literal.defaultText?_description (x : Literal) :
    (x.description d).defaultText? = some x.written := by
  cases x with
  | number negative digits =>
    cases negative with
    | false =>
      refine (defaultText?_tagged "number" (by decide) _).trans ?_
      show some (String.ofList digits) = _
      simp [written, lexemes, Lexeme.number, Lexeme.written]
    | true =>
      refine (defaultText?_tagged "number" (by decide) _).trans ?_
      show some ("-" ++ String.ofList digits) = _
      simp [written, lexemes, Lexeme.number, Lexeme.written, Lexeme.mark]
  | text content =>
    refine (defaultText?_tagged "single_quote_string" (by decide) _).trans ?_
    show some ("'" ++ Text.replace (String.ofList content) "'" "''" ++ "'") = _
    rw [replace_quote]
    simp [written, lexemes, Lexeme.text, Lexeme.written, String.append_assoc]
  | bool b => cases b <;> cases d <;> decide +kernel
  | null => cases d <;> rfl
  | now => exact defaultText?_now d


/-! ### Clauses -/

theorem lookup_cons {α : Type} (name : String) (f : String × α) (fields : List (String × α)) :
    (f :: fields).lookup name = if name = f.1 then some f.2 else fields.lookup name := by
  rw [List.lookup_cons]
  by_cases h : name = f.1
  · rw [if_pos h, beq_iff_eq.mpr h]
  · rw [if_neg h, beq_eq_false_iff_ne.mpr h]

namespace Clause

/-- Whether the clause lets the column be null, if it is about that. -/
def nullable? : Clause → Option Bool
  | notNull => some false
  | null => some true
  | _ => none

def literal? : Clause → Option Literal
  | default x => some x
  | _ => none

/-- The tag of the clause among the constraints of the column. -/
def tag? : Clause → Option String
  | key => some "primary key"
  | counts _ => some "auto_increment"
  | unique | uniqueDefault => some "unique"
  | _ => none

/-- The last clause on null decides. -/
def nullability (cs : List Clause) : Option Bool := cs.foldl (fun b c => c.nullable?.or b) none

/-- The last default counts. -/
def lastLiteral? (cs : List Clause) : Option Literal := cs.foldl (fun x c => c.literal?.or x) none

/-- The description of what is said about null. -/
def nullText (nullable : Bool) : String := if nullable then "null" else "not null"

def nullDescription (nullable : Bool) : Value :=
  Describe.tagged (nullText nullable) [("value", .text (nullText nullable))]

/-- The parts of the description of a column, by what its clauses say. -/
structure Describes (d : Dialect) (p : Describe.ColumnParts) (b : Option Bool) (x : Option Literal)
    (tags : List String) : Prop where
  nullable : p.fields.lookup "nullable" = b.map nullDescription
  default : p.fields.lookup "default_val" = x.map (Literal.description d)
  names : ∀ f ∈ p.fields, f.1 ∈ ["nullable", "default_val"]
  constraints : p.constraints = tags.map fun t => Describe.tagged t []
  options : p.options = []

theorem lookup_filter (removed name : String) (fields : List (String × Value)) :
    (fields.filter fun f => f.1 != removed).lookup name =
      if name = removed then none else fields.lookup name := by
  induction fields with
  | nil => simp
  | cons f fields ih =>
    rw [List.filter_cons, lookup_cons]
    by_cases hf : f.1 = removed
    · rw [if_neg (by simp [hf]), ih, hf]
      split <;> rfl
    · rw [if_pos (by simp [hf]), lookup_cons, ih]
      by_cases hname : name = f.1
      · rw [if_pos hname, if_neg (by rwa [hname]), if_pos hname]
      · rw [if_neg hname, if_neg hname]

theorem lookup_setField (p : Describe.ColumnParts) (name other : String) (v : Value) :
    (p.setField name v).fields.lookup other =
      if other = name then some v else p.fields.lookup other := by
  rw [Describe.ColumnParts.setField, List.lookup_append, lookup_filter, lookup_cons]
  split
  · rfl
  · exact Option.or_none

theorem Describes.add {p : Describe.ColumnParts} {b : Option Bool} {x : Option Literal} {tags : List String}
    (h : Describes d p b x tags) (c : Clause) :
    Describes d (p.add d (c.constraint d)) (c.nullable?.or b) (c.literal?.or x) (tags ++ c.tag?.toList) := by
  have hset {name : String} (hname : name ∈ ["nullable", "default_val"]) (v : Value) :
      ∀ f ∈ (p.setField name v).fields, f.1 ∈ ["nullable", "default_val"] := by
    intro f hf
    rcases List.mem_append.mp hf with hf | hf
    · exact h.names f (List.mem_filter.mp hf).1
    · obtain rfl := List.mem_singleton.mp hf
      exact hname
  have htag (t : String) : Describes d (p.addConstraint (Describe.tagged t [])) b x (tags ++ [t]) :=
    ⟨h.nullable, h.default, h.names, by simp [Describe.ColumnParts.addConstraint, h.constraints], h.options⟩
  have hnull (nullable : Bool) :
      Describes d (p.setField "nullable" (nullDescription nullable)) (some nullable) x (tags ++ []) :=
    ⟨by rw [lookup_setField]; rfl, by rw [lookup_setField]; exact h.default, hset (by simp) _,
      by rw [List.append_nil]; exact h.constraints, h.options⟩
  cases c with
  | key => exact htag _
  | counts underscore => exact htag _
  | notNull => exact hnull false
  | unique | uniqueDefault => exact htag _
  | null => exact hnull true
  | default y =>
    exact ⟨by rw [constraint, rule]; exact (lookup_setField ..).trans h.nullable,
      lookup_setField .., hset (by simp) _, (List.append_nil tags).symm ▸ h.constraints, h.options⟩

/-- The parts of the description of a column with these clauses. -/
def parts (d : Dialect) (cs : List Clause) : Describe.ColumnParts :=
  (cs.map (constraint d)).foldl (Describe.ColumnParts.add d) {}

theorem describes_foldl {p : Describe.ColumnParts} {b : Option Bool} {x : Option Literal} {tags : List String}
    (h : Describes d p b x tags) (cs : List Clause) :
    Describes d ((cs.map (constraint d)).foldl (Describe.ColumnParts.add d) p)
      (cs.foldl (fun b c => c.nullable?.or b) b) (cs.foldl (fun x c => c.literal?.or x) x)
      (tags ++ cs.filterMap tag?) := by
  induction cs generalizing p b x tags with
  | nil => simpa using h
  | cons c cs ih =>
    have hcs := ih (h.add c)
    have htags : (c :: cs).filterMap tag? = c.tag?.toList ++ cs.filterMap tag? := by
      rw [List.filterMap_cons]
      cases c.tag? <;> rfl
    rwa [List.append_assoc, ← htags] at hcs

theorem describes_parts (d : Dialect) (cs : List Clause) :
    Describes d (parts d cs) (nullability cs) (lastLiteral? cs) (cs.filterMap tag?) :=
  have hnone : Describes d {} none none [] :=
    { nullable := rfl, default := rfl, names := by simp, constraints := rfl, options := rfl }
  describes_foldl hnone cs


/-- What the clause says about the values of the column. -/
def marks : Clause → ColumnMarks
  | key => .key
  | counts _ => { autoIncrement := true }
  | unique | uniqueDefault => { unique := true }
  | _ => {}

theorem constraintMarks_tag (c : Clause) :
    ∀ t ∈ c.tag?, ColumnDefinition.constraintMarks (Describe.tagged t []) = c.marks := by
  cases c with
  | key => decide +kernel
  | counts underscore => cases underscore <;> decide +kernel
  | unique | uniqueDefault => decide +kernel
  | notNull | null | default => exact nofun

theorem join_nothing (m : ColumnMarks) : m.join {} = m := by
  simp [ColumnMarks.join]

theorem foldl_join_tags (cs : List Clause) (m : ColumnMarks) :
    (((cs.filterMap tag?).map fun t => Describe.tagged t []).map ColumnDefinition.constraintMarks).foldl
        ColumnMarks.join m = (cs.map marks).foldl ColumnMarks.join m := by
  induction cs generalizing m with
  | nil => rfl
  | cons c cs ih =>
    rw [List.filterMap_cons, List.map_cons, List.foldl_cons]
    cases htag : c.tag? with
    | none =>
      have hmarks : c.marks = {} := by cases c <;> first | rfl | cases htag
      rw [hmarks, join_nothing]
      exact ih m
    | some t =>
      rw [List.map_cons, List.map_cons, List.foldl_cons, c.constraintMarks_tag t htag]
      exact ih _

end Clause

end SchemaDesk.Ddl
