import SchemaDesk.Proofs.Ddl.Line
import SchemaDesk.Schema
/-!
The two kinds of statements in a script, and how they are written: a table with its lines, and a foreign
key that is added to a table.
-/

namespace SchemaDesk.Ddl

open Sql Sql.Reader Sql.Grammar Sql.Cursor

/-- A table with one line at least. -/
structure CreateTable where
  name : String
  first : Line
  more : List Line

/-- A foreign key with an action for each event, if one is given. -/
structure AddKey where
  table : String
  column : String
  target : String
  targetColumn : String
  onDelete : Option ReferentialAction
  onUpdate : Option ReferentialAction

/-- The margin of a line. -/
def margin : List Lexeme := [.blank '\n', .blank ' ', .blank ' ']

theorem cuts_margin (d : Dialect) (rest : List Char) : Lexeme.Cuts d margin rest :=
  ⟨Lexeme.blank_cutBefore (by decide) _, Lexeme.blank_cutBefore (by decide) _,
    Lexeme.blank_cutBefore (by decide) _, trivial⟩

/-! ### Tables -/

namespace CreateTable

def lineLexemes (first : Line) (more : List Line) : List Lexeme :=
  margin ++ (first.lexemes ++
    (more.flatMap (fun x => .mark ',' :: (margin ++ x.lexemes)) ++ [.blank '\n', .mark ')']))

def lexemes (t : CreateTable) : List Lexeme :=
  [.verbatim (.keyword "CREATE") "CREATE", .blank ' ', .verbatim (.keyword "TABLE") "TABLE", .blank ' ',
    .verbatim .word t.name, .blank ' ', .mark '('] ++ (lineLexemes t.first t.more ++ [.mark ';'])

def IsValid (d : Dialect) (t : CreateTable) : Prop :=
  IsPlain d t.name ∧ ∀ x ∈ t.first :: t.more, x.IsValid d

theorem cuts_moreLines {d : Dialect} {more : List Line} (h : ∀ x ∈ more, x.IsValid d) (rest : List Char) :
    Lexeme.Cuts d (more.flatMap (fun x => .mark ',' :: (margin ++ x.lexemes)) ++
      [.blank '\n', .mark ')']) rest ∧
    Line.Ends (Lexeme.allWritten (more.flatMap (fun x => .mark ',' :: (margin ++ x.lexemes)) ++
      [.blank '\n', .mark ')']) ++ rest) := by
  induction more with
  | nil =>
    exact ⟨⟨Lexeme.blank_cutBefore (by decide) _, Lexeme.mark_cutBefore rfl _, trivial⟩,
      rest, Or.inr rfl⟩
  | cons x more ih =>
    obtain ⟨hcuts, hends⟩ := ih fun y hy => h y (by simp [hy])
    rw [List.flatMap_cons, List.cons_append, List.append_assoc, List.cons_append, List.append_assoc,
      List.append_assoc]
    exact ⟨⟨Lexeme.mark_cutBefore rfl _,
      Lexeme.Cuts.append (cuts_margin d _) (Lexeme.Cuts.append (Line.cuts (h x (by simp)) hends) hcuts)⟩,
      _, Or.inl rfl⟩

theorem cuts {d : Dialect} {t : CreateTable} (ht : t.IsValid d) (rest : List Char) :
    Lexeme.Cuts d t.lexemes rest := by
  obtain ⟨hname, hlines⟩ := ht
  have hblank (cs : List Char) : Lexer.Delimited (' ' :: cs) := Lexer.delimited_cons rfl
  have hsemicolon : Lexeme.Cuts d [.mark ';'] rest := ⟨Lexeme.mark_cutBefore rfl _, trivial⟩
  have hmoreLines : ∀ x ∈ t.more, x.IsValid d := fun x hx => hlines x (by simp [hx])
  obtain ⟨hmore, hends⟩ := cuts_moreLines hmoreLines (Lexeme.allWritten [.mark ';'] ++ rest)
  have hcuts : Lexeme.Cuts d (lineLexemes t.first t.more) (Lexeme.allWritten [.mark ';'] ++ rest) :=
    Lexeme.Cuts.append (cuts_margin d _)
      (Lexeme.Cuts.append (Line.cuts (hlines t.first (by simp)) hends) hmore)
  refine Lexeme.Cuts.append ⟨Lexeme.fixed_cutBefore d (by decide) (hblank _),
    Lexeme.blank_cutBefore (by decide) _, Lexeme.fixed_cutBefore d (by decide) (hblank _),
    Lexeme.blank_cutBefore (by decide) _, ?_, Lexeme.blank_cutBefore (by decide) _,
    Lexeme.mark_cutBefore rfl _, trivial⟩ (Lexeme.Cuts.append hcuts hsemicolon)
  exact hname.cutBefore_mark [' '] (by decide) (Lexer.delimited_cons rfl) (by simp; decide)
    (hblank _)

end CreateTable

/-! ### Foreign keys -/

/-- The words of an action. -/
def actionWords : ReferentialAction → List (String × TokenKind)
  | .cascade => [("CASCADE", .word)]
  | .setNull => [("SET", .keyword "SET"), ("NULL", .type "NULL")]
  | .restrict => [("RESTRICT", .word)]
  | .noAction => [("NO", .word), ("ACTION", .word)]

/-- An event that a foreign key may have an action for. -/
inductive Event
  | delete
  | update

def Event.name : Event → String
  | delete => "DELETE"
  | update => "UPDATE"

def actionLexemes (e : Event) : Option ReferentialAction → List Lexeme
  | none => []
  | some a => .blank ' ' :: .verbatim (.keyword "ON") "ON" :: .blank ' ' ::
      .verbatim (.keyword e.name) e.name :: (actionWords a).flatMap fun w => [.blank ' ', .verbatim w.2 w.1]

theorem cuts_action (d : Dialect) (e : Event) (a : Option ReferentialAction) {rest : List Char}
    (hrest : Lexer.Delimited rest) : Lexeme.Cuts d (actionLexemes e a) rest ∧
      Lexer.Delimited (Lexeme.allWritten (actionLexemes e a) ++ rest) := by
  have hblank (cs : List Char) : Lexer.Delimited (' ' :: cs) := Lexer.delimited_cons rfl
  obtain - | a := a
  · exact ⟨trivial, hrest⟩
  have hwords : Lexeme.Cuts d
      ((actionWords a).flatMap fun w => [.blank ' ', .verbatim w.2 w.1]) rest := by
    have hspace (cs : List Char) : (Lexeme.blank ' ').CutBefore d cs :=
      Lexeme.blank_cutBefore (by decide) cs
    cases a with
    | cascade => exact ⟨hspace _, Lexeme.fixed_cutBefore d (by decide) hrest, trivial⟩
    | setNull =>
      exact ⟨hspace _, Lexeme.fixed_cutBefore d (by decide) (hblank _), hspace _,
        Lexeme.fixed_cutBefore d (by decide) hrest, trivial⟩
    | restrict => exact ⟨hspace _, Lexeme.fixed_cutBefore d (by decide) hrest, trivial⟩
    | noAction =>
      exact ⟨hspace _, Lexeme.fixed_cutBefore d (by decide) (hblank _), hspace _,
        Lexeme.fixed_cutBefore d (by decide) hrest, trivial⟩
  have hevent : (Lexeme.verbatim (.keyword e.name) e.name).CutBefore d
      (Lexeme.allWritten ((actionWords a).flatMap fun w => [.blank ' ', .verbatim w.2 w.1]) ++ rest) := by
    refine Lexeme.fixed_cutBefore d (by cases e <;> decide) ?_
    cases a with
    | cascade | setNull | restrict | noAction => exact hblank _
  exact ⟨⟨Lexeme.blank_cutBefore (by decide) _, Lexeme.fixed_cutBefore d (by decide) (hblank _),
    Lexeme.blank_cutBefore (by decide) _, hevent, hwords⟩, hblank _⟩

namespace AddKey

def constraintName (k : AddKey) : String := "fk_" ++ k.table ++ "_" ++ k.column

def frontLexemes (k : AddKey) : List Lexeme :=
  [.verbatim (.keyword "ALTER") "ALTER", .blank ' ', .verbatim (.keyword "TABLE") "TABLE", .blank ' ',
    .verbatim .word k.table] ++ (margin ++
  ([.verbatim .word "ADD", .blank ' ', .verbatim (.keyword "CONSTRAINT") "CONSTRAINT", .blank ' ',
    .verbatim .word k.constraintName] ++ margin))

def referenceLexemes (k : AddKey) : List Lexeme :=
  [.verbatim (.keyword "FOREIGN KEY") "FOREIGN KEY", .blank ' ', .mark '(', .verbatim .word k.column,
    .mark ')'] ++ (margin ++
  [.verbatim (.keyword "REFERENCES") "REFERENCES", .blank ' ', .verbatim .word k.target, .mark '(',
    .verbatim .word k.targetColumn, .mark ')'])

def lexemes (k : AddKey) : List Lexeme :=
  k.frontLexemes ++ (k.referenceLexemes ++
    (actionLexemes .delete k.onDelete ++ (actionLexemes .update k.onUpdate ++ [.mark ';'])))

def IsValid (d : Dialect) (k : AddKey) : Prop :=
  ∀ s ∈ [k.table, k.column, k.target, k.targetColumn], IsPlain d s

theorem cuts {d : Dialect} {k : AddKey} (hk : k.IsValid d) (rest : List Char) :
    Lexeme.Cuts d k.lexemes rest := by
  have hblank (cs : List Char) : Lexer.Delimited (' ' :: cs) := Lexer.delimited_cons rfl
  have hspace (cs : List Char) : (Lexeme.blank ' ').CutBefore d cs :=
    Lexeme.blank_cutBefore (by decide) cs
  have hmargin : ∀ b ∈ ['\n', ' ', ' '], Text.isBlank b = true := by decide
  have hparenthesis {s : String} (hs : s ∈ [k.table, k.column, k.target, k.targetColumn]) (c : Char)
      (cs : List Char) (hc : c = '(' ∨ c = ')') : (Lexeme.verbatim .word s).CutBefore d (c :: cs) := by
    rcases hc with rfl | rfl
    · exact (hk s hs).cutBefore_mark [] nofun (Lexer.delimited_cons rfl) (by simp; decide)
        (Lexer.delimited_cons rfl)
    · exact (hk s hs).cutBefore_mark [] nofun (Lexer.delimited_cons rfl) (by simp; decide)
        (Lexer.delimited_cons rfl)
  have htable : IsPlain d k.table := hk k.table (by simp)
  have hconstraint : IsWord d k.constraintName :=
    htable.toIsWord.constraintName (hk k.column (by simp)).toIsWord
  have hsemicolon : Lexeme.Cuts d [.mark ';'] rest := ⟨Lexeme.mark_cutBefore rfl _, trivial⟩
  have hbehind : Lexer.Delimited (Lexeme.allWritten [.mark ';'] ++ rest) := Lexer.delimited_cons rfl
  obtain ⟨hupdate, hbehindUpdate⟩ := cuts_action d .update k.onUpdate hbehind
  obtain ⟨hdelete, hbehindDelete⟩ := cuts_action d .delete k.onDelete hbehindUpdate
  have hactions : Lexeme.Cuts d (actionLexemes .delete k.onDelete ++
      (actionLexemes .update k.onUpdate ++ [.mark ';'])) rest :=
    Lexeme.Cuts.append (by simpa using hdelete) (Lexeme.Cuts.append hupdate hsemicolon)
  refine Lexeme.Cuts.append (Lexeme.Cuts.append ?_ (Lexeme.Cuts.append (cuts_margin d _)
    (Lexeme.Cuts.append ?_ (cuts_margin d _)))) (Lexeme.Cuts.append (Lexeme.Cuts.append ?_
      (Lexeme.Cuts.append (cuts_margin d _) ?_)) hactions)
  · exact ⟨Lexeme.fixed_cutBefore d (by decide) (hblank _), hspace _,
      Lexeme.fixed_cutBefore d (by decide) (hblank _), hspace _,
      htable.cutBefore_word _ (u := "ADD".toList) hmargin (by simp; decide) (by decide +kernel) (hblank _)
        (Lexer.delimited_cons rfl) (by decide +kernel), trivial⟩
  · exact ⟨Lexeme.fixed_cutBefore d (by decide) (hblank _), hspace _,
      Lexeme.fixed_cutBefore d (by decide) (hblank _), hspace _,
      hconstraint.cutBefore_word _ (u := "FOREIGN".toList) hmargin (by simp; decide) (by decide +kernel)
        (hblank _) (Lexer.delimited_cons rfl) (by decide +kernel), trivial⟩
  · exact ⟨Lexeme.phrase_cutBefore_of_mem d (by decide) (hblank _), hspace _,
      Lexeme.mark_cutBefore rfl _, hparenthesis (by simp) _ _ (Or.inr rfl),
      Lexeme.mark_cutBefore rfl _, trivial⟩
  · exact ⟨Lexeme.fixed_cutBefore d (by decide) (hblank _), hspace _,
      hparenthesis (by simp) _ _ (Or.inl rfl), Lexeme.mark_cutBefore rfl _,
      hparenthesis (by simp) _ _ (Or.inr rfl), Lexeme.mark_cutBefore rfl _, trivial⟩

end AddKey

end SchemaDesk.Ddl
