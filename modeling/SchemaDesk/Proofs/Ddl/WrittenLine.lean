import SchemaDesk.Ddl.Script
import SchemaDesk.Proofs.Ddl.LineDescription
import SchemaDesk.Proofs.Ddl.WrittenType
/-!
The lines that are written for columns.
-/

namespace SchemaDesk

open Ddl Sql

/-! ### Defaults -/

/-- The literal with that text, if there is one. -/
noncomputable def Ddl.Literal.ofText (s : String) : Literal :=
  open Classical in if h : ∃ x : Literal, x.IsValid ∧ x.written = s then h.choose else .null

theorem Ddl.Literal.isValid_ofText (s : String) : (ofText s).IsValid := by
  unfold ofText
  split
  · next h => exact h.choose_spec.1
  · trivial

theorem Ddl.Literal.written_ofText {s : String} (h : ∃ x : Literal, x.IsValid ∧ x.written = s) :
    (ofText s).written = s := by
  rw [ofText, dif_pos h]
  exact h.choose_spec.2

theorem Ddl.Literal.eq_null_of_written {x : Literal} (h : x.written = "NULL") (hx : x.IsValid) : x = .null := by
  have hchars := congrArg String.toList h
  rw [written, String.toList_ofList] at hchars
  have hnull : "NULL".toList = ['N', 'U', 'L', 'L'] := by decide
  rw [hnull] at hchars
  cases x with
  | number negative digits =>
    cases negative with
    | true => cases hchars
    | false =>
      have hdigits : digits = ['N', 'U', 'L', 'L'] := by simpa [lexemes, Lexeme.number, Lexeme.written] using hchars
      have hdigit := hx.2 'N' (by simp [hdigits])
      cases hdigit
  | text content => cases hchars
  | bool b => cases b <;> cases hchars
  | null => rfl
  | now => cases hchars

namespace Column

variable {d : Dialect} {c : Column} {k : Bool}

/-- The default that is written, if any. -/
noncomputable def literal? (c : Column) : Option Literal := (c.default.filter (· != "")).map .ofText

/-- A default is the text of a literal. -/
def HasSimpleDefault (c : Column) : Prop :=
  ∀ s ∈ c.default, s ≠ "" → ∃ x : Literal, x.IsValid ∧ x.written = s

theorem map_written_literal? (h : c.HasSimpleDefault) : c.literal?.map Literal.written = c.default.filter (· != "") := by
  cases hc : c.default with
  | none => simp [literal?, hc]
  | some s =>
    by_cases hs : s = ""
    · simp [literal?, hc, hs, Option.filter_some]
    · simp [literal?, hc, hs, Option.filter_some, Literal.written_ofText (h s hc hs)]

theorem isValid_literal? : ∀ x ∈ c.literal?, x.IsValid := by
  intro x hx
  obtain ⟨s, -, rfl⟩ := Option.map_eq_some_iff.mp hx
  exact Literal.isValid_ofText s

/-! ### Clauses -/

/-- The clauses for the only column of a key. -/
def keyClauses (c : Column) : Dialect → List Clause
  | .postgresql => if c.type.isSerial then [] else [.key]
  | .mysql => [.key]
  | .sqlite => if c.type.isSerial then [.key, .counts false] else [.key]

/-- The clauses in front of the one on unique values. -/
def frontClauses (c : Column) (d : Dialect) (compositeKey : Bool) : List Clause :=
  (if c.countsBehindType d then [.counts true] else []) ++
  (if c.primaryKey && !compositeKey then c.keyClauses d else []) ++
  (if (!c.nullable && !c.primaryKey) || (c.primaryKey && compositeKey) then [.notNull] else [])

/-- The clauses on unique values and on the default, as they are read. MySQL takes the word `DEFAULT`
behind `UNIQUE` for a name. -/
def backClauses (d : Dialect) (unique : Bool) : Option Literal → List Clause
  | none => if unique then [.unique] else []
  | some .null =>
    if unique then if d = .mysql then [.uniqueDefault, .null] else [.unique, .default .null] else [.default .null]
  | some x => if unique then [.unique, .default x] else [.default x]

/-- The column is unique without being the key. -/
def isUniqueAlone (c : Column) : Bool := c.unique && !c.primaryKey

noncomputable def writtenClauses (c : Column) (d : Dialect) (compositeKey : Bool) : List Clause :=
  c.frontClauses d compositeKey ++ backClauses d c.isUniqueAlone c.literal?

/-- The line of the column with that default. -/
def lineWith (c : Column) (d : Dialect) (compositeKey : Bool) (x : Option Literal) : Line :=
  .column c.name (c.typeWords d) (c.frontClauses d compositeKey ++ backClauses d c.isUniqueAlone x)

/-- The line of the column. -/
noncomputable def writtenLine (c : Column) (d : Dialect) (compositeKey : Bool) : Line :=
  .column c.name (c.typeWords d) (c.writtenClauses d compositeKey)

/-! ### The text of a line -/

def behindBlanks (ss : List String) : List Char := ss.flatMap fun s => ' ' :: s.toList

def clauseChars (cs : List Clause) : List Char := cs.flatMap fun c => ' ' :: Lexeme.allWritten c.lexemes

theorem allWritten_typeWords (c : Column) (d : Dialect) : Lexeme.allWritten (c.typeWords d).lexemes =
    ((c.type.words d).1 ++ numbersText ((c.type.words d).2.numbers c)).toList := by
  have hnumber (n : Int) : Lexeme.allWritten (Literal.ofInt n).lexemes = (Text.intText n).toList := by
    by_cases hn : n < 0
    · simp [Literal.ofInt, Literal.lexemes, Text.intText, Text.natText, hn, Lexeme.number, Lexeme.mark, Lexeme.written]
    · simp [Literal.ofInt, Literal.lexemes, Text.intText, Text.natText, hn, Lexeme.number, Lexeme.written]
  have hmore (ns : List Int) : Lexeme.allWritten (ns.flatMap fun m => .mark ',' :: (Literal.ofInt m).lexemes) =
      (String.join (ns.map fun m => "," ++ Text.intText m)).toList := by
    induction ns with
    | nil => rfl
    | cons n ns ih =>
      rw [List.flatMap_cons, Lexeme.allWritten_append, ih, Lexeme.allWritten_cons, hnumber]
      simp [Lexeme.mark, Lexeme.written]
  have hnumbers (ns : List Int) : Lexeme.allWritten (TypeWords.numberLexemes ns) = (numbersText ns).toList := by
    cases ns with
    | nil => rfl
    | cons n ns =>
      rw [TypeWords.numberLexemes, Lexeme.allWritten_cons, Lexeme.allWritten_append, hnumber,
        Lexeme.allWritten_append, hmore, numbersText]
      simp only [String.toList_append, List.append_assoc]
      rfl
  rw [TypeWords.lexemes, Lexeme.allWritten_cons, hnumbers, String.toList_append]
  rfl

theorem clauseChars_append (as bs : List Clause) : clauseChars (as ++ bs) = clauseChars as ++ clauseChars bs :=
  List.flatMap_append

theorem behindBlanks_append (as bs : List String) : behindBlanks (as ++ bs) = behindBlanks as ++ behindBlanks bs :=
  List.flatMap_append

theorem clauseChars_keyClauses (c : Column) (d : Dialect) :
    clauseChars (c.keyClauses d) = behindBlanks (c.keyClause d) := by
  unfold keyClauses keyClause
  cases d <;> cases c.type.isSerial <;> rfl

theorem clauseChars_frontClauses (c : Column) (d : Dialect) (k : Bool) : clauseChars (c.frontClauses d k) =
    (if c.countsBehindType d then " AUTO_INCREMENT".toList else []) ++
      behindBlanks ((if c.primaryKey && !k then c.keyClause d else []) ++
        if (!c.nullable && !c.primaryKey) || (c.primaryKey && k) then ["NOT NULL"] else []) := by
  have hkey := c.clauseChars_keyClauses d
  rw [frontClauses, clauseChars_append, clauseChars_append, behindBlanks_append, List.append_assoc]
  congr 1
  · split <;> rfl
  congr 1
  · split
    · exact hkey
    · rfl
  · split <;> rfl

theorem clauseChars_backClauses (d : Dialect) (unique : Bool) (x : Option Literal) :
    clauseChars (backClauses d unique x) = behindBlanks ((if unique then ["UNIQUE"] else []) ++
      (x.map fun x => "DEFAULT " ++ x.written).toList) := by
  have hdefault (x : Literal) : clauseChars [.default x] = behindBlanks ["DEFAULT " ++ x.written] := by
    simp [clauseChars, behindBlanks, Clause.lexemes, Lexeme.verbatim, Lexeme.written, Literal.written]
  have hunique (x : Literal) : clauseChars [.unique, .default x] = behindBlanks ["UNIQUE", "DEFAULT " ++ x.written] := by
    rw [← List.singleton_append, clauseChars_append, hdefault]
    rfl
  have hnull : clauseChars [.uniqueDefault, .null] = behindBlanks ["UNIQUE", "DEFAULT " ++ Literal.null.written] := by
    decide
  cases x with
  | none => cases unique <;> rfl
  | some x =>
    cases unique with
    | false => cases x <;> exact hdefault _
    | true =>
      cases x with
      | null =>
        by_cases hd : d = .mysql
        · simpa [backClauses, hd] using hnull
        · simpa [backClauses, hd] using hunique .null
      | number | text | bool | now => exact hunique _

/-- The default is written unless it is empty. -/
theorem toList_writtenDefault {x : Option Literal} (hx : x.map Literal.written = c.default.filter (· != "")) :
    (x.map fun x => "DEFAULT " ++ x.written).toList =
      match c.default with
      | none => []
      | some s => if s == "" then [] else ["DEFAULT " ++ s] := by
  have hmap : (x.map fun x => "DEFAULT " ++ x.written) =
      (c.default.filter (· != "")).map ("DEFAULT " ++ ·) := by
    rw [← hx, Option.map_map]
    rfl
  rw [hmap]
  cases c.default with
  | none => rfl
  | some s => by_cases hs : s = "" <;> simp [hs, Option.filter_some]

theorem clauseChars_clauses {x : Option Literal} (hx : x.map Literal.written = c.default.filter (· != "")) :
    clauseChars (c.frontClauses d k ++ backClauses d c.isUniqueAlone x) =
      (if c.countsBehindType d then " AUTO_INCREMENT".toList else []) ++ behindBlanks (c.clauses d k) := by
  rw [clauseChars_append, clauseChars_frontClauses, clauseChars_backClauses, toList_writtenDefault hx,
    List.append_assoc, ← behindBlanks_append, clauses, isUniqueAlone]
  exact congrArg (_ ++ behindBlanks ·) (List.append_assoc ..).symm

theorem toList_intercalate_cons (sep s : String) (ss : List String) :
    (sep.intercalate (s :: ss)).toList = s.toList ++ ss.flatMap fun t => sep.toList ++ t.toList := by
  rw [String.toList_intercalate]
  induction ss generalizing s with
  | nil => simp
  | cons t ss ih =>
    rw [List.map_cons, List.map_cons, List.intercalate_cons_cons, ← List.map_cons, ih, List.flatMap_cons,
      List.append_assoc, List.append_assoc]

theorem toList_lineWith {x : Option Literal} (hx : x.map Literal.written = c.default.filter (· != "")) :
    (c.line d k).toList = indent.toList ++ Lexeme.allWritten (c.lineWith d k x).lexemes := by
  have hclauses (cs : List Clause) : Lexeme.allWritten (cs.flatMap fun x => .blank ' ' :: x.lexemes) =
      clauseChars cs := by
    rw [Lexeme.allWritten, List.flatMap_assoc]
    rfl
  rw [line, toList_intercalate_cons, lineWith, Line.lexemes, Lexeme.allWritten_cons, Lexeme.allWritten_cons,
    Lexeme.allWritten_append, hclauses, clauseChars_clauses hx, allWritten_typeWords, List.flatMap_cons,
    typeText_eq]
  cases c.countsBehindType d <;> simp [behindBlanks, Lexeme.verbatim, Lexeme.written]

theorem toList_line (h : c.HasSimpleDefault) :
    (c.line d k).toList = indent.toList ++ Lexeme.allWritten (c.writtenLine d k).lexemes :=
  toList_lineWith (map_written_literal? h)

/-! ### Reading a line -/

/-- The clauses that stand in front of the one on unique values. -/
def isFront : Clause → Bool
  | .key | .counts _ | .notNull => true
  | _ => false

theorem all_frontClauses (c : Column) (d : Dialect) (k : Bool) : (c.frontClauses d k).all isFront = true := by
  unfold frontClauses keyClauses countsBehindType
  cases d <;> cases c.type.isSerial <;> cases c.primaryKey <;> cases c.nullable <;> cases k <;> rfl

theorem isFront_of_mem {x : Clause} (hx : x ∈ c.frontClauses d k) : isFront x = true :=
  List.all_eq_true.mp (c.all_frontClauses d k) x hx

theorem allFit_frontClauses (c : Column) (d : Dialect) (k : Bool) : Clause.AllFit d (c.frontClauses d k) := by
  unfold frontClauses keyClauses countsBehindType
  cases d <;> cases c.type.isSerial <;> cases c.primaryKey <;> cases c.nullable <;> cases k <;>
    simp [Clause.AllFit, Clause.Fits]

/-- The clauses in front fit to any clause that starts the others. -/
theorem allFit_append {bs : List Clause} (hbs : Clause.AllFit d bs)
    (hhead : ∀ b ∈ bs.head?, b ≠ .null ∧ b ≠ .notNull) :
    Clause.AllFit d (c.frontClauses d k ++ bs) := by
  refine List.isChain_append.mpr ⟨c.allFit_frontClauses d k, hbs, fun a ha b hb => ?_⟩
  have hfront := isFront_of_mem (List.mem_of_getLast? ha)
  obtain ⟨hnull, hnot⟩ := hhead b hb
  cases a with
  | key | counts | notNull => cases b <;> trivial
  | unique | uniqueDefault | null | default => cases hfront

theorem head?_backClauses (d : Dialect) (unique : Bool) (x : Option Literal) :
    ∀ b ∈ (backClauses d unique x).head?, b ≠ .null ∧ b ≠ .notNull := by
  obtain - | x := x
  · cases unique <;> simp [backClauses]
  · cases unique <;> cases x <;> by_cases hd : d = .mysql <;> simp [backClauses, hd]

theorem isValid_of_mem_backClauses {unique : Bool} {x : Option Literal} (hx : ∀ y ∈ x, y.IsFound d) :
    ∀ b ∈ backClauses d unique x, b.IsValid d := by
  obtain - | x := x
  · cases unique <;> simp [backClauses, Clause.IsValid]
  · have hx := hx x rfl
    cases unique <;> cases x <;> by_cases hd : d = .mysql <;> simp [backClauses, hd, Clause.IsValid] at hx ⊢ <;>
      exact hx

theorem isValid_lineWith (hname : IsPlain d c.name) {x : Option Literal} (hx : ∀ y ∈ x, y.IsFound d) :
    (c.lineWith d k x).IsValid d := by
  refine ⟨hname, c.isKnown_typeWords d, fun b hb => ?_, ?_⟩
  · rcases List.mem_append.mp hb with hb | hb
    · have hfront := isFront_of_mem hb
      cases b with
      | default => cases hfront
      | _ => trivial
    · exact isValid_of_mem_backClauses hx b hb
  · intro hhead
    rw [List.head?_append] at hhead
    cases hfront : (c.frontClauses d k).head? with
    | none =>
      rw [hfront, Option.none_or] at hhead
      exact (head?_backClauses d _ _ _ hhead).1 rfl
    | some b =>
      rw [hfront, Option.some_or] at hhead
      obtain rfl := Option.some.inj hhead
      cases isFront_of_mem (List.mem_of_head? hfront)

theorem isValid_writtenLine (hname : IsPlain d c.name) : (c.writtenLine d k).IsValid d :=
  isValid_lineWith hname fun x hx => (c.isValid_literal? x hx).isFound d

/-- The line is read as a whole: no number is negative, and MySQL does not find a default behind the word
`UNIQUE`, unless that is `NULL`. -/
def IsReadable (c : Column) (d : Dialect) : Prop :=
  (∀ n ∈ (c.typeWords d).numbers, 0 ≤ n) ∧
    (d = .mysql → c.isUniqueAlone = true → ∀ x ∈ c.literal?, x = .null)

theorem isRead_lineWith (hnumbers : ∀ n ∈ (c.typeWords d).numbers, 0 ≤ n) {x : Option Literal}
    (hunique : d = .mysql → c.isUniqueAlone = true → ∀ y ∈ x, y = .null) : (c.lineWith d k x).IsRead d := by
  have hback : Clause.AllFit d (backClauses d c.isUniqueAlone x) := by
    obtain - | x := x
    · cases c.isUniqueAlone <;> simp [backClauses, Clause.AllFit]
    · cases hu : c.isUniqueAlone with
      | false => cases x <;> simp [backClauses, Clause.AllFit]
      | true =>
        by_cases hd : d = .mysql
        · obtain rfl := hunique hd hu x rfl
          simp [backClauses, Clause.AllFit, Clause.Fits, hd]
        · cases x <;> simp [backClauses, Clause.AllFit, Clause.Fits, hd]
  refine ⟨hnumbers, allFit_append hback (head?_backClauses d _ _), fun hmem => ?_⟩
  rcases List.mem_append.mp hmem with hmem | hmem
  · cases isFront_of_mem hmem
  · by_contra hd
    revert hmem
    obtain - | x := x
    · cases c.isUniqueAlone <;> simp [backClauses]
    · cases c.isUniqueAlone <;> cases x <;> simp [backClauses, hd]

theorem isRead_writtenLine (h : c.IsReadable d) : (c.writtenLine d k).IsRead d := isRead_lineWith h.1 h.2

/-- Behind `UNIQUE`, MySQL gets stuck at a default. -/
theorem isStuck_lineWith (hnumbers : ∀ n ∈ (c.typeWords d).numbers, 0 ≤ n) (hd : d = .mysql)
    (hunique : c.isUniqueAlone = true) {x : Literal} (hnull : x ≠ .null) : (c.lineWith d k (some x)).IsStuck d := by
  refine Or.inr ⟨hnumbers, hd, c.frontClauses d k, x, ?_, allFit_append (by simp [Clause.AllFit]) (by simp), hnull⟩
  rw [hunique]
  cases x <;> first | exact (hnull rfl).elim | rfl

theorem isStuck_writtenLine (h : ¬ c.IsReadable d) : (c.writtenLine d k).IsStuck d := by
  by_cases hnumbers : ∀ n ∈ (c.typeWords d).numbers, 0 ≤ n
  · have hunique : d = .mysql ∧ c.isUniqueAlone = true ∧ ∃ x ∈ c.literal?, x ≠ .null := by
      by_contra hnot
      exact h ⟨hnumbers, fun hd hu x hx => by_contra fun hne => hnot ⟨hd, hu, x, hx, hne⟩⟩
    obtain ⟨hd, hu, x, hx, hne⟩ := hunique
    have hstuck : (c.lineWith d k (some x)).IsStuck d := isStuck_lineWith hnumbers hd hu hne
    rwa [← Option.mem_def.mp hx] at hstuck
  · left
    obtain ⟨n, hn, hneg⟩ := not_forall₂.mp hnumbers
    exact ⟨n, hn, Int.not_le.mp hneg⟩

end Column

end SchemaDesk
