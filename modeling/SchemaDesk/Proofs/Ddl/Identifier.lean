import SchemaDesk.Proofs.Ddl.Type
import SchemaDesk.Proofs.Sql.Reading.Name
import SchemaDesk.Sql.SourceType
/-!
Plain names: ASCII identifiers that no dialect list knows, and that have no meaning of their own where
a definition has a name.
-/

namespace SchemaDesk.Ddl

open Sql Sql.Reader Sql.Grammar Sql.Cursor

/-- An ASCII identifier that is neither a keyword nor a type. -/
structure IsWord (d : Dialect) (s : String) : Prop where
  name : Text.isName s.toList
  word : Keyword.ofWord d (Text.upper s) = .word

/-- Words that mean something else where a definition may have a name. -/
def specialWords : List String :=
  SourceType.itemWords ++ SourceType.prefixWords ++ ["CONCURRENTLY", "ONLY"]

structure IsPlain (d : Dialect) (s : String) : Prop extends IsWord d s where
  special : Text.upper s ∉ specialWords

instance (d : Dialect) (s : String) : Decidable (IsPlain d s) :=
  decidable_of_iff (Text.isName s.toList ∧ Keyword.ofWord d (Text.upper s) = .word ∧ Text.upper s ∉ specialWords)
    ⟨fun ⟨hname, hword, hspecial⟩ => ⟨⟨hname, hword⟩, hspecial⟩, fun h => ⟨h.name, h.word, h.special⟩⟩

variable {d : Dialect} {n : Nested} {columns : ColumnList} {l t : Token} {s : String} {ts : List Token}

namespace IsWord

theorem forall_isNameChar (h : IsWord d s) : ∀ c ∈ s.toList, Text.isNameChar c := by
  obtain ⟨hname, -⟩ := h
  cases hs : s.toList with
  | nil => simp
  | cons c cs => exact Lexer.forall_isNameChar (hs ▸ hname)

theorem ne_empty (h : IsWord d s) : s ≠ "" := by
  rintro rfl
  cases h.name

/-- The second words of phrases that start with no known word. -/
def secondWords : List (List Char) :=
  ["BY", "KEY", "LIKE", "OF", "PRECISION", "SET", "SETS", "TABLES", "TO", "VARYING", "WITH"].map
    String.toList

theorem behindFirstWord_of_mem {q : String × TokenKind} (hq : q ∈ Keyword.ofPhrases d)
    (hname : (Lexer.firstWord q.1.toList).all Text.isNameChar = true)
    (hword : Keyword.ofWord d (String.ofList (Lexer.firstWord q.1.toList)) = .word) :
    ∃ v ∈ secondWords, Lexer.behindFirstWord q.1.toList = ' ' :: v := by
  have hall : ∀ q ∈ Keyword.ofPhrases d,
      (Lexer.behindFirstWord q.1.toList).take 1 = [' '] ∧
        (Lexer.behindFirstWord q.1.toList).tail ∈ secondWords ∨
      (Lexer.firstWord q.1.toList).all Text.isNameChar = false ∨
      Keyword.ofWord d (String.ofList (Lexer.firstWord q.1.toList)) ≠ .word := by
    cases d <;> decide +kernel
  rcases hall q hq with ⟨htake, hmem⟩ | hnot | hnot
  · refine ⟨_, hmem, ?_⟩
    cases h : Lexer.behindFirstWord q.1.toList with
    | nil => rw [h] at htake; cases htake
    | cons c v => rw [h] at htake; simpa using htake
  · rw [hname] at hnot
    cases hnot
  · exact (hnot hword).elim

/-- A name is cut off in front of blanks and another word. -/
theorem cutBefore_word (h : IsWord d s) (bs : List Char) {u rest : List Char}
    (hbs : ∀ b ∈ bs, Text.isBlank b = true)
    (hstart : ∀ c ∈ (u ++ rest).head?, Text.isBlank c = false) (hu : ∀ c ∈ u, Text.isNameChar c)
    (hrest : Lexer.Delimited rest) (hdelimited : Lexer.Delimited (bs ++ (u ++ rest)))
    (hphrase : Text.upperChars u ∉ secondWords) :
    (Lexeme.verbatim .word s).CutBefore d (bs ++ (u ++ rest)) := by
  refine Lexeme.word_cutBefore h.name h.word hdelimited fun q hq hfirst => ?_
  have hname : (Lexer.firstWord q.1.toList).all Text.isNameChar = true := by
    rw [hfirst, Text.upperChars_name h.forall_isNameChar, List.all_eq_true]
    intro x hx
    obtain ⟨c, hc, rfl⟩ := List.mem_map.mp hx
    exact Text.toUpper_nameChar (h.forall_isNameChar c hc)
  obtain ⟨v, hmem, hv⟩ := behindFirstWord_of_mem hq hname (hfirst ▸ h.word)
  have hvname : ∀ v ∈ secondWords, ∀ c ∈ v, Text.isNameChar c := by decide +kernel
  rw [hv]
  refine Lexer.noWords_behind_blanks bs hbs hstart (hvname v hmem) hu hrest ?_
  rintro rfl
  exact hphrase hmem

/-- A name is cut off in front of a mark. -/
theorem cutBefore_mark (h : IsWord d s) (bs : List Char) {rest : List Char}
    (hbs : ∀ b ∈ bs, Text.isBlank b = true)
    (hrest : Lexer.Delimited rest) (hstart : ∀ c ∈ rest.head?, Text.isBlank c = false)
    (hdelimited : Lexer.Delimited (bs ++ rest)) : (Lexeme.verbatim .word s).CutBefore d (bs ++ rest) :=
  h.cutBefore_word bs (u := []) hbs hstart nofun hrest hdelimited (by decide)

theorem firstWord_type (d : Dialect) : ∀ f ∈ TypeWords.forms d,
    (∀ c ∈ Lexer.firstWord f.2.1.toList, Text.isNameChar c) ∧ Lexer.firstWord f.2.1.toList ≠ [] ∧
      (∀ c ∈ (Lexer.behindFirstWord f.2.1.toList).head?, c = ' ') ∧
      Text.upperChars (Lexer.firstWord f.2.1.toList) ∉ secondWords := by
  cases d <;> decide +kernel

/-- A name is cut off in front of a type. -/
theorem cutBefore_type (h : IsWord d s) {x : TypeWords} (hx : x.IsKnown d) {rest : List Char}
    (hrest : Lexer.Delimited (Lexeme.allWritten (TypeWords.numberLexemes x.numbers) ++ rest)) :
    (Lexeme.verbatim .word s).CutBefore d (' ' :: (Lexeme.allWritten x.lexemes ++ rest)) := by
  obtain ⟨hname, hne, hbehind, hphrase⟩ := firstWord_type d _ hx
  have hwritten : Lexeme.allWritten x.lexemes ++ rest =
      Lexer.firstWord x.name.toList ++ (Lexer.behindFirstWord x.name.toList ++
        (Lexeme.allWritten (TypeWords.numberLexemes x.numbers) ++ rest)) := by
    rw [← List.append_assoc, Lexer.firstWord, Lexer.behindFirstWord, List.takeWhile_append_dropWhile,
      ← List.append_assoc]
    rfl
  rw [hwritten]
  refine h.cutBefore_word [' '] (by decide) ?_ hname ?_ (Lexer.delimited_cons rfl) hphrase
  · cases hfirst : Lexer.firstWord x.name.toList with
    | nil => exact (hne hfirst).elim
    | cons c cs =>
      have hc : Text.isBlank c = false := Text.isBlank_of_isNameChar (hname c (by simp [hfirst]))
      simpa using hc
  · cases hrest' : Lexer.behindFirstWord x.name.toList with
    | nil => exact hrest
    | cons c cs =>
      obtain rfl : c = ' ' := hbehind c (by simp [hrest'])
      exact Lexer.delimited_cons rfl

/-- No known word starts like the name of a foreign key. -/
theorem ofWord_eq_word {w : String} (hw : w.toList.take 3 = ['F', 'K', '_']) :
    Keyword.ofWord d w = .word := by
  have hcommon : ∀ s ∈ Keyword.plainWords ++ Keyword.plainTypes ++ Keyword.otherWords.map (·.1) ++
      Keyword.otherTypes.map (·.1), s.toList.take 3 ≠ ['F', 'K', '_'] := by
    decide +kernel
  have hdialect : ∀ p ∈ Keyword.dialectWords d, p.1.toList.take 3 ≠ ['F', 'K', '_'] := by
    cases d <;> decide +kernel
  have hne {s : String} (hs : s.toList.take 3 ≠ ['F', 'K', '_']) : w ≠ s := by
    rintro rfl
    exact hs hw
  have hlookup {β : Type} {ps : List (String × β)}
      (hps : ∀ p ∈ ps, p.1.toList.take 3 ≠ ['F', 'K', '_']) : ps.lookup w = none :=
    List.lookup_eq_none_iff.mpr fun p hp => by simpa using hne (hps p hp)
  have hintroducer : Keyword.isIntroducer d w = false := by
    rw [Keyword.isIntroducer, List.any_eq_false.mpr fun s _ => ?_, Bool.and_false]
    simpa using hne (s := "_" ++ s) (by simp [String.toList_append])
  have hcontains {ws : List String} (hws : ∀ s ∈ ws, s.toList.take 3 ≠ ['F', 'K', '_']) :
      ws.contains w = false := by
    simpa using fun h => hne (hws w h) rfl
  have hplain : Keyword.plainWords.contains w = false := hcontains fun s hs => hcommon s (by simp [hs])
  have htype : Keyword.plainTypes.contains w = false := hcontains fun s hs => hcommon s (by simp [hs])
  have hother : Keyword.otherWords.lookup w = none := hlookup fun p hp => hcommon p.1
    (List.mem_append_left _ (List.mem_append_right _ (List.mem_map_of_mem hp)))
  have hothertype : Keyword.otherTypes.lookup w = none := hlookup fun p hp => hcommon p.1
    (List.mem_append_right _ (List.mem_map_of_mem hp))
  rw [Keyword.ofWord, hlookup hdialect, hother, hothertype]
  simp only [hintroducer, hplain, htype, Bool.false_eq_true, if_false]

/-- The name of a foreign key is no known word. -/
theorem constraintName {a b : String} (ha : IsWord d a) (hb : IsWord d b) :
    IsWord d ("fk_" ++ a ++ "_" ++ b) := by
  have hchars : ∀ c ∈ ("fk_" ++ a ++ "_" ++ b).toList, Text.isNameChar c := by
    have hfk : ∀ c ∈ "fk_".toList, Text.isNameChar c := by decide +kernel
    have hunderscore : ∀ c ∈ "_".toList, Text.isNameChar c := by decide +kernel
    simp only [String.toList_append, List.mem_append]
    rintro c (((hc | hc) | hc) | hc)
    · exact hfk c hc
    · exact ha.forall_isNameChar c hc
    · exact hunderscore c hc
    · exact hb.forall_isNameChar c hc
  have hcons : ("fk_" ++ a ++ "_" ++ b).toList = 'f' :: 'k' :: '_' :: (a.toList ++ '_' :: b.toList) := by
    simp [String.toList_append]
  constructor
  · rw [hcons] at hchars ⊢
    simp only [Text.isName, Bool.and_eq_true, List.all_eq_true]
    exact ⟨by decide, fun c hc => hchars c (by simp at hc ⊢; tauto)⟩
  · have htake : (Text.upper ("fk_" ++ a ++ "_" ++ b)).toList.take 3 = ['F', 'K', '_'] := by
      rw [Text.upper, String.toList_ofList, Text.upperChars_name hchars, hcons]
      rfl
    exact ofWord_eq_word htake

theorem caseless (h : IsWord d s) (ht : t.Is .word s) : t.caseless = Text.upper s := by
  rw [Token.caseless, ht.text, Text.collapse_upper_name h.forall_isNameChar]

end IsWord

namespace IsPlain

variable (h : IsPlain d s) (ht : t.Is .word s)

include h ht

theorem caseless_notMem : t.caseless ∉ specialWords := by
  rw [h.toIsWord.caseless ht]
  exact h.special

theorem reads_eq_false {w : String} (hw : w ∈ specialWords) : t.reads w = false := by
  have hne : t.caseless ≠ w := by
    rintro rfl
    exact h.caseless_notMem ht hw
  simp [Token.reads_eq, hne]

/-- No rule of a table starts with a plain name. -/
theorem run_tableRules : (tableRules d n columns).run (behind l (t :: ts)) =
    .ok (none, behind l (t :: ts)) := by
  have hconstraint : (keyword "CONSTRAINT").run (behind l (t :: ts)) =
      .ok (false, behind l (t :: ts)) := by
    rw [keyword, run_skipIf_cons, if_neg (by simp [Token.isKeyword_eq, ht.kind])]
  have hquoted : (nextIs (·.kind == .quoted)).run (behind l (t :: ts)) =
      .ok (false, behind l (t :: ts)) := by
    rw [run_nextIs]
    simp [ht.kind]
  have hnone : (oneOf (tableRuleWords d)).run (behind l (t :: ts)) =
      .ok (none, behind l (t :: ts)) := by
    refine run_oneOf_of_none fun u hu => ?_
    obtain rfl : t = u := by simpa using hu
    have hsub : ∀ w ∈ tableRuleWords d, w ∈ specialWords := by cases d <;> decide
    by_contra hcontains
    exact h.caseless_notMem ht (hsub _ (by simpa using hcontains))
  have hrule : (unnamedRule d n columns (tableRuleWords d)).run (behind l (t :: ts)) =
      .ok (none, behind l (t :: ts)) := by
    rw [unnamedRule, run_bind hquoted]
    simp only [Bool.false_eq_true, if_false]
    rw [run_bind run_get, run_bind hnone]
    rfl
  rw [tableRules, run_bind hconstraint]
  simp only [Bool.false_eq_true, if_false]
  rw [run_bind hrule]
  rfl

omit ht in
theorem wordedValue?_eq_none : wordedValue? d n (Text.upper s) = none := by
  have hany : Keyword.ofWord d "ANY" ≠ .word ∧ Keyword.ofWord d "CASE" ≠ .word ∧
      Keyword.ofWord d "NEXT" ≠ .word := by
    cases d <;> decide +kernel
  have hword := h.word
  have hspecial := h.special
  unfold wordedValue?
  split
  · next heq => exact (hany.1 (heq ▸ hword)).elim
  · next heq => exact (hany.2.1 (heq ▸ hword)).elim
  · next heq => exact (hspecial (heq ▸ by decide)).elim
  · next heq => exact (hany.2.2 (heq ▸ hword)).elim
  · rfl

variable (hts : ∀ u ∈ ts.head?, u.isMark "(" = false)

include hts

/-- A plain name without parentheses is no call. -/
theorem run_call (anyWord : Bool) : (call d n anyWord false).run (behind l (t :: ts)) =
    .ok (none, behind l (t :: ts)) := by
  have hbraced : (pair (·.isMark "\x7b") (·.caseless == "FN")).run (behind l (t :: ts)) =
      .ok (false, behind l (t :: ts)) := by
    refine run_pair_of_none fun u hu => ?_
    obtain rfl : t = u := by simpa using hu
    simp [Token.isMark_eq, ht.kind]
  have hsecond : (secondIs (·.isMark "(")).run (behind l (t :: ts)) = .ok (false, behind l (t :: ts)) := by
    rw [run_secondIs]
    cases ts with
    | nil => rfl
    | cons u ts => simp [hts u rfl]
  have hplain : (plainCall d n anyWord false).run (behind l (t :: ts)) = .ok (none, behind l (t :: ts)) := by
    rw [plainCall, run_bind run_peek]
    simp only [List.head?_cons]
    rw [run_bind run_get]
    simp only [ht.text, h.wordedValue?_eq_none, ite_self]
    rw [run_bind hsecond]
    simp [Token.isKeyword_eq, ht.kind]
  rw [call, run_bind hbraced, run_bind hplain]
  rfl

theorem run_nameValue {r : Reader (Option Ident)}
    (hr : r.run (behind l (t :: ts)) = .ok (some { text := s }, behind t ts)) (anyWord : Bool) :
    (orElse (primary d n) (orElse (call d n anyWord false) (nameValue r d))).run (behind l (t :: ts)) =
      .ok (some (.name { text := s }), behind t ts) := by
  have hprimary : (primary d n).run (behind l (t :: ts)) = .ok (none, behind l (t :: ts)) := by
    refine run_primary_none fun u hu => ?_
    obtain rfl : t = u := by simpa using hu
    constructor <;> simp [literalOf?, Token.isKeyword_eq, Token.isMark_eq, ht.kind]
  have hparameter : (parameter d).run (behind l (t :: ts)) = .ok (none, behind l (t :: ts)) := by
    refine run_parameter_none fun u hu m _ => ?_
    obtain rfl : t = u := by simpa using hu
    simp [Token.isMark_eq, ht.kind]
  have hname : (nameValue r d).run (behind l (t :: ts)) =
      .ok (some (.name { text := s }), behind t ts) := by
    rw [nameValue, run_orElse_none hparameter, run_bind hr]
    rfl
  rw [run_orElse_none hprimary, run_orElse_none (h.run_call ht hts anyWord), hname]

theorem run_field : (field d n).run (behind l (t :: ts)) =
    .ok (some (.name { text := s }), behind t ts) :=
  h.run_nameValue ht hts (run_anyName ht) true

theorem run_primaryKeyPart : (primaryKeyPart d n).run (behind l (t :: ts)) =
    .ok (some (.name { text := s }), behind t ts) := by
  rw [primaryKeyPart]
  split
  · have hopen : (mark "(").run (behind t ts) = .ok (false, behind t ts) := run_skipIf_of_none hts
    rw [run_bind (run_anyName ht)]
    simp only []
    rw [run_bind hopen]
    rfl
  · exact h.run_nameValue ht hts (run_name ht) false

end IsPlain

end SchemaDesk.Ddl
