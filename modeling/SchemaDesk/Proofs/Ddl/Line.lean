import SchemaDesk.Proofs.Ddl.Clause
import SchemaDesk.Proofs.Ddl.Identifier
/-!
The lines between the parentheses of a table: columns, and the key of several columns.
-/

namespace SchemaDesk.Ddl

open Sql Sql.Reader Sql.Grammar Sql.Cursor

inductive Line
  | column (name : String) (type : TypeWords) (clauses : List Clause)
  | key (first : String) (more : List String)

/-- Names between commas. -/
def nameLexemes (first : String) (more : List String) : List Lexeme :=
  .verbatim .word first :: more.flatMap fun s => [.mark ',', .blank ' ', .verbatim .word s]

namespace Line

def lexemes : Line → List Lexeme
  | column name type clauses =>
    .verbatim .word name :: .blank ' ' ::
      (type.lexemes ++ clauses.flatMap fun c => .blank ' ' :: c.lexemes)
  | key first more =>
    .verbatim (.keyword "PRIMARY KEY") "PRIMARY KEY" :: .blank ' ' :: .mark '(' ::
      (nameLexemes first more ++ [.mark ')'])

def shapes (x : Line) : List TokenShape := x.lexemes.filterMap Lexeme.shape?

/-- The lexer finds the line. -/
def IsValid (d : Dialect) : Line → Prop
  | column name type clauses =>
    IsPlain d name ∧ type.IsKnown d ∧ (∀ c ∈ clauses, c.IsValid d) ∧ clauses.head? ≠ some .null
  | key first more => ∀ s ∈ first :: more, IsPlain d s

/-! ### Cutting -/

/-- A comma or the parenthesis behind the last line follows. -/
def Ends (rest : List Char) : Prop := ∃ cs, rest = ',' :: cs ∨ rest = '\n' :: ')' :: cs

theorem Ends.delimited {rest : List Char} (h : Ends rest) : Lexer.Delimited rest := by
  obtain ⟨cs, rfl | rfl⟩ := h
  · exact Lexer.delimited_cons rfl
  · exact Lexer.delimited_cons rfl

theorem Ends.noPrecision {rest : List Char} (h : Ends rest) : TypeWords.NoPrecision rest := by
  obtain ⟨cs, rfl | rfl⟩ := h
  · exact Lexer.noWords_behind_blanks [] (u := []) (v := "PRECISION".toList) nofun
      (by simp; decide) (by decide) nofun (Lexer.delimited_cons rfl) (by decide)
  · exact Lexer.noWords_behind_blanks ['\n'] (u := []) (v := "PRECISION".toList) (by decide)
      (by simp; decide) (by decide) nofun (Lexer.delimited_cons rfl) (by decide)

/-- The first word of a clause. -/
def clauseWord : Clause → List Char
  | .key => "PRIMARY".toList
  | .counts true => "AUTO_INCREMENT".toList
  | .counts false => "AUTOINCREMENT".toList
  | .notNull => "NOT".toList
  | .unique | .uniqueDefault => "UNIQUE".toList
  | .null => "NULL".toList
  | .default _ => "DEFAULT".toList

theorem noPrecision_clause (c : Clause) {rest : List Char} (hrest : Lexer.Delimited rest) :
    TypeWords.NoPrecision (' ' :: (Lexeme.allWritten c.lexemes ++ rest)) := by
  have hwritten : ∃ cs, Lexeme.allWritten c.lexemes ++ rest = clauseWord c ++ cs ∧
      Lexer.Delimited cs := by
    cases c with
    | key => exact ⟨" KEY".toList ++ rest, rfl, Lexer.delimited_cons rfl⟩
    | counts underscore => cases underscore <;> exact ⟨rest, rfl, hrest⟩
    | notNull => exact ⟨" NULL".toList ++ rest, rfl, Lexer.delimited_cons rfl⟩
    | unique => exact ⟨rest, rfl, hrest⟩
    | uniqueDefault => exact ⟨" DEFAULT".toList ++ rest, rfl, Lexer.delimited_cons rfl⟩
    | null => exact ⟨rest, rfl, hrest⟩
    | default x => exact ⟨' ' :: (x.lexemes.flatMap Lexeme.written ++ rest), rfl, Lexer.delimited_cons rfl⟩
  have hword : (∀ x ∈ clauseWord c, Text.isNameChar x = true) ∧ clauseWord c ≠ [] ∧
      "PRECISION".toList ≠ Text.upperChars (clauseWord c) := by
    cases c with
    | counts underscore => cases underscore <;> decide +kernel
    | key | notNull | unique | uniqueDefault | null => decide +kernel
    | default x =>
      have hdefault : (∀ x ∈ "DEFAULT".toList, Text.isNameChar x = true) ∧ "DEFAULT".toList ≠ [] ∧
          "PRECISION".toList ≠ Text.upperChars "DEFAULT".toList := by
        decide +kernel
      exact hdefault
  obtain ⟨cs, hcs, hdelimited⟩ := hwritten
  rw [hcs]
  refine Lexer.noWords_behind_blanks [' '] (v := "PRECISION".toList) (by decide) ?_ (by decide)
    hword.1 hdelimited hword.2.2
  cases hc : clauseWord c with
  | nil => exact (hword.2.1 hc).elim
  | cons x xs =>
    have hx : Text.isBlank x = false := Text.isBlank_of_isNameChar (hword.1 x (by simp [hc]))
    simpa using hx

theorem cuts_clauses {d : Dialect} {cs : List Clause} (hcs : ∀ c ∈ cs, c.IsValid d) {rest : List Char}
    (hrest : Ends rest) :
    Lexeme.Cuts d (cs.flatMap fun c => .blank ' ' :: c.lexemes) rest ∧
      Lexer.Delimited (Lexeme.allWritten (cs.flatMap fun c => .blank ' ' :: c.lexemes) ++ rest) ∧
      TypeWords.NoPrecision
        (Lexeme.allWritten (cs.flatMap fun c => .blank ' ' :: c.lexemes) ++ rest) := by
  induction cs with
  | nil => exact ⟨trivial, hrest.delimited, hrest.noPrecision⟩
  | cons c cs ih =>
    obtain ⟨hcuts, hdelimited, -⟩ := ih fun x hx => hcs x (by simp [hx])
    rw [List.flatMap_cons]
    refine ⟨Lexeme.Cuts.append ⟨Lexeme.blank_cutBefore (by decide) _,
      Clause.cuts (hcs c (by simp)) hdelimited⟩ hcuts, Lexer.delimited_cons rfl, ?_⟩
    rw [Lexeme.allWritten_append, Lexeme.allWritten_cons, List.append_assoc, List.append_assoc]
    exact noPrecision_clause c hdelimited

theorem cuts_names {d : Dialect} {first : String} {more : List String}
    (h : ∀ s ∈ first :: more, IsPlain d s) {rest : List Char} :
    Lexeme.Cuts d (nameLexemes first more) (')' :: rest) := by
  have hmark (s : String) (hs : IsPlain d s) (x : Char) (cs : List Char) (hx : x = ',' ∨ x = ')') :
      (Lexeme.verbatim .word s).CutBefore d (x :: cs) := by
    rcases hx with rfl | rfl
    · exact hs.cutBefore_mark [] nofun (Lexer.delimited_cons rfl) (by simp; decide)
        (Lexer.delimited_cons rfl)
    · exact hs.cutBefore_mark [] nofun (Lexer.delimited_cons rfl) (by simp; decide)
        (Lexer.delimited_cons rfl)
  induction more generalizing first with
  | nil => exact ⟨hmark first (h first (by simp)) _ _ (Or.inr rfl), trivial⟩
  | cons s more ih =>
    obtain ⟨hs, hmore⟩ := @ih s fun x hx => h x (by simp at hx ⊢; tauto)
    exact ⟨hmark first (h first (by simp)) _ _ (Or.inl rfl), Lexeme.mark_cutBefore rfl _,
      Lexeme.blank_cutBefore (by decide) _, hs, hmore⟩

theorem cuts {d : Dialect} {x : Line} (hx : x.IsValid d) {rest : List Char} (hrest : Ends rest) :
    Lexeme.Cuts d x.lexemes rest := by
  cases x with
  | column name type clauses =>
    obtain ⟨hname, htype, hclauses, -⟩ := hx
    obtain ⟨hcuts, hdelimited, hprecision⟩ := cuts_clauses hclauses hrest
    refine ⟨?_, Lexeme.blank_cutBefore (by decide) _,
      Lexeme.Cuts.append (TypeWords.cuts htype hdelimited hprecision) hcuts⟩
    rw [Lexeme.allWritten_cons, Lexeme.allWritten_append, List.append_assoc, List.append_assoc]
    exact hname.cutBefore_type htype (TypeWords.delimited_numbers _ hdelimited)
  | key first more =>
    exact ⟨Lexeme.phrase_cutBefore_of_mem d (by decide) (Lexer.delimited_cons rfl),
      Lexeme.blank_cutBefore (by decide) _, Lexeme.mark_cutBefore rfl _,
      Lexeme.Cuts.append (cuts_names hx) ⟨Lexeme.mark_cutBefore rfl _, trivial⟩⟩

end Line

end SchemaDesk.Ddl
