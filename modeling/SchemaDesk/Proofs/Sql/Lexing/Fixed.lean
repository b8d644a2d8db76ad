import SchemaDesk.Proofs.Sql.Lexing.Value
/-!
The words and phrases that all definitions share, and the names that are none of them.
-/

namespace SchemaDesk.Sql

open Lexer

namespace Lexeme

/-- The words of definitions, each with its kind in all dialects. -/
def fixedWords : List (String × TokenKind) := [
  ("NOT", .keyword "NOT"), ("NULL", .type "NULL"), ("UNIQUE", .keyword "UNIQUE"),
  ("DEFAULT", .keyword "DEFAULT"), ("AUTO_INCREMENT", .keyword "AUTO_INCREMENT"),
  ("AUTOINCREMENT", .keyword "AUTO_INCREMENT"), ("TRUE", .keyword "TRUE"),
  ("FALSE", .keyword "FALSE"), ("CURRENT_TIMESTAMP", .keyword "CURRENT_TIMESTAMP"),
  ("CREATE", .keyword "CREATE"), ("TABLE", .keyword "TABLE"), ("ALTER", .keyword "ALTER"),
  ("ADD", .word), ("CONSTRAINT", .keyword "CONSTRAINT"), ("REFERENCES", .keyword "REFERENCES"),
  ("ON", .keyword "ON"), ("DELETE", .keyword "DELETE"), ("UPDATE", .keyword "UPDATE"),
  ("CASCADE", .word), ("SET", .keyword "SET"), ("RESTRICT", .word), ("NO", .word), ("ACTION", .word)]

/-- No phrase of the dialect starts with the word. -/
def StartsNoPhrase (d : Dialect) (w : List Char) : Prop :=
  ∀ q ∈ Keyword.ofPhrases d, firstWord q.1.toList ≠ Text.upperChars w

theorem StartsNoPhrase.noPhrase {d : Dialect} {w rest : List Char} (h : StartsNoPhrase d w) :
    NoPhrase d w rest :=
  fun q hq hfirst => (h q hq hfirst).elim

theorem fixed_cutBefore (d : Dialect) {s : String} {k : TokenKind} {rest : List Char}
    (hs : (s, k) ∈ fixedWords) (hrest : Delimited rest) : (verbatim k s).CutBefore d rest := by
  have hall : ∀ x ∈ fixedWords, Text.isName x.1.toList = true ∧
      Keyword.ofWord d (Text.upper x.1) = x.2 ∧
      ∀ q ∈ Keyword.ofPhrases d, firstWord q.1.toList ≠ Text.upperChars x.1.toList := by
    cases d <;> decide
  obtain ⟨hname, hk, hphrase⟩ := hall (s, k) hs
  exact word_cutBefore hname hk hrest (StartsNoPhrase.noPhrase hphrase)

/-- The phrases of definitions. -/
def fixedPhrases : List (String × TokenKind) := [
  ("PRIMARY KEY", .keyword "PRIMARY KEY"), ("FOREIGN KEY", .keyword "FOREIGN KEY"),
  ("DOUBLE PRECISION", .type "DOUBLE")]

theorem phrase_cutBefore_of_mem (d : Dialect) {s : String} {k : TokenKind} {rest : List Char}
    (hs : (s, k) ∈ fixedPhrases) (hrest : Delimited rest) : (verbatim k s).CutBefore d rest := by
  have hmem : ∀ x ∈ fixedPhrases, x ∈ Keyword.ofPhrases d := by cases d <;> decide
  have honly : ∀ x ∈ fixedPhrases, ∀ q ∈ Keyword.ofPhrases d,
      firstWord q.1.toList = firstWord x.1.toList → q = x := by
    cases d <;> decide
  have hfixed := hs
  simp only [fixedPhrases, List.mem_cons, List.not_mem_nil, or_false, Prod.mk.injEq] at hs
  rcases hs with ⟨rfl, rfl⟩ | ⟨rfl, rfl⟩ | ⟨rfl, rfl⟩
  · exact phrase_cutBefore (w := "RIMARY".toList) (v := "KEY".toList) rfl (by decide)
      (by decide) (hmem _ hfixed) (honly _ hfixed) (by decide +kernel) (by decide) hrest
  · exact phrase_cutBefore (w := "OREIGN".toList) (v := "KEY".toList) rfl (by decide)
      (by decide) (hmem _ hfixed) (honly _ hfixed) (by decide +kernel) (by decide) hrest
  · exact phrase_cutBefore (w := "OUBLE".toList) (v := "PRECISION".toList) rfl (by decide)
      (by decide) (hmem _ hfixed) (honly _ hfixed) (by decide +kernel) (by decide) hrest

end Lexeme

end SchemaDesk.Sql
