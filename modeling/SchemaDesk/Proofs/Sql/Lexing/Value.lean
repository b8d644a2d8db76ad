import Mathlib.Data.List.Chain
import SchemaDesk.Proofs.Sql.Lexing.Piece
/-!
Lexemes other than words: blanks, marks, numbers, texts, and comments up to the end of the line.
-/

namespace SchemaDesk.Sql

namespace Lexer

open Text (isNameChar)

/-- The marks between the parts of a definition. -/
def isSeparator (c : Char) : Bool := ['(', ')', ',', ';'].contains c

theorem isSeparator_cases {c : Char} (h : isSeparator c = true) :
    c = '(' ∨ c = ')' ∨ c = ',' ∨ c = ';' := by
  simpa [isSeparator] using h

/-- What the lexer makes of a mark on its own. -/
theorem piece_mark {d : Dialect} {c : Char} {cs : List Char} (hc : isSeparator c = true ∨ c = '-')
    (hcomment : comment? d (c :: cs) = none) (hmark : mark? d (c :: cs) = none) :
    piece d c cs = .token (.mark (String.singleton c)) (String.singleton c) 1 := by
  have hcases : c ∈ (['(', ')', ',', ';', '-'] : List Char) := by
    rcases hc with hc | rfl
    · rcases isSeparator_cases hc with rfl | rfl | rfl | rfl <;> decide
    · decide
  have hall : ∀ x ∈ (['(', ')', ',', ';', '-'] : List Char), Text.isBlank x = false ∧
      Text.isDigit x = false ∧ nameMark? d x = none ∧ isNameChar x = false ∧
      Text.upperChar x = [x] ∧ x ≠ '\'' ∧ x ≠ '"' ∧ kindLetters.contains x = false ∧ x ≠ '$' ∧
      x ∈ Keyword.breakers ∧ (x == '~') = false ∧
      markKind (String.singleton x) = .mark (String.singleton x) := by
    cases d <;> decide
  obtain ⟨hblank, hdigit, hname, hletter, hupper, hquote, hdouble, hkind, hdollar, hbreaker, htilde,
    hsymbol⟩ := hall c hcases
  simp [piece, hblank, hdigit, hname, hcomment, text?_eq_none ⟨hquote, hdouble⟩ (Or.inr hkind),
    dollar?_eq_none hdollar, phrase?_eq_none_of_mark hletter hupper, markOrWord, hmark, hbreaker, htilde,
    hsymbol]

theorem piece_separator {d : Dialect} {c : Char} (hc : isSeparator c = true) (cs : List Char) :
    piece d c cs = .token (.mark (String.singleton c)) (String.singleton c) 1 := by
  refine piece_mark (Or.inl hc) (comment?_eq_none d cs ?_) (mark?_eq_none ?_)
  · rcases isSeparator_cases hc with rfl | rfl | rfl | rfl <;> decide
  · rcases isSeparator_cases hc with rfl | rfl | rfl | rfl <;> cases d <;> decide

theorem startsWith_minus_digit {p : List Char} {x : Char} (cs : List Char) (hx : x.isDigit = true)
    (hp : p.head?.any (· != '-') = true ∨ p[1]?.any (!·.isDigit) = true) :
    Text.startsWith p ('-' :: x :: cs) = false := by
  match p, hp with
  | [], hp => simp at hp
  | [a], hp =>
    have ha : a ≠ '-' := by simpa using hp
    exact startsWith_cons_of_ne ha _ _
  | a :: b :: p, hp =>
    have hab : a ≠ '-' ∨ b.isDigit = false := by simpa using hp
    rcases hab with ha | hb
    · exact startsWith_cons_of_ne ha _ _
    · have hbx : b ≠ x := by rintro rfl; rw [hx] at hb; cases hb
      simp [Text.startsWith, Text.dropStart?, hbx]

/-- In front of a digit, a minus sign is a mark on its own. -/
theorem piece_minus (d : Dialect) {x : Char} (hx : x.isDigit = true) (cs : List Char) :
    piece d '-' (x :: cs) = .token (.mark "-") "-" 1 := by
  have hmarks : ∀ m ∈ Keyword.dialectMarks d ++ Keyword.commonMarks,
      m.toList.head?.any (· != '-') = true ∨ m.toList[1]?.any (!·.isDigit) = true := by
    cases d <;> decide
  refine piece_mark (Or.inr rfl) ?_ ?_
  · have hdashes := startsWith_minus_digit (p := "--".toList) cs hx (by decide)
    have hblock := startsWith_minus_digit (p := blockMarks.opening) cs hx (by decide)
    have htemplate := startsWith_minus_digit (p := templateMarks.opening) cs hx (by decide)
    have hsharp := startsWith_minus_digit (p := ['#']) cs hx (by decide)
    simp only [comment?, hdashes, hblock, htemplate, hsharp, Bool.and_false, Bool.false_and,
      Bool.false_eq_true, if_false]
  · rw [mark?, List.find?_eq_none]
    intro m hm
    rw [startsWith_minus_digit _ hx (hmarks m hm)]
    exact Bool.false_ne_true

theorem numberSize_digits {ds rest : List Char} (hds : ∀ c ∈ ds, c.isDigit = true)
    (hrest : Delimited rest) : numberSize false false (ds ++ rest) = ds.length := by
  induction ds with
  | nil =>
    obtain - | ⟨c, rest⟩ := rest
    · rfl
    · obtain ⟨hdigit, hpoint, he, hE⟩ : Text.isDigit c = false ∧ c ≠ '.' ∧ c ≠ 'e' ∧ c ≠ 'E' := by
        rcases isDelimiter_cases (hrest c rfl) with rfl | rfl | rfl | rfl | rfl | rfl <;>
          exact ⟨by decide, by decide, by decide, by decide⟩
      rw [List.nil_append, numberSize.eq_def]
      simp [hdigit, hpoint, he, hE]
  | cons c ds ih =>
    have hc : Text.isDigit c = true := Text.isDigit_of_isDigit (hds c (by simp))
    rw [List.cons_append, numberSize.eq_def]
    simp only [hc, if_true, ih fun x hx => hds x (by simp [hx]), List.length_cons]

/-- What the lexer makes of a number in decimal digits. -/
theorem piece_number {d : Dialect} {c : Char} {cs rest : List Char}
    (hdigits : ∀ x ∈ c :: cs, x.isDigit = true) (hrest : Delimited rest) :
    piece d c (cs ++ rest) = .token .number (String.ofList (c :: cs)) (c :: cs).length := by
  have hc := hdigits c (by simp)
  have hblank : Text.isBlank c = false := by
    simpa using Text.forall_digit (q := fun c => !Text.isBlank c) (by decide) hc
  have hsize := numberSize_digits hdigits hrest
  have hsecond : ∀ x ∈ (cs ++ rest).head?, x ≠ 'x' ∧ x ≠ 'X' ∧ x ≠ 'B' ∧ Text.upperChar x = [x] := by
    intro x hx
    have hx' : x.isDigit = true ∨ isDelimiter x = true := by
      obtain - | ⟨y, cs⟩ := cs
      · exact Or.inr (hrest x hx)
      · obtain rfl : y = x := by simpa using hx
        exact Or.inl (hdigits y (by simp))
    rcases hx' with hx' | hx'
    · have := Text.forall_digit
        (q := fun x => decide (x ≠ 'x' ∧ x ≠ 'X' ∧ x ≠ 'B' ∧ Text.upperChar x = [x]))
        (by decide) hx'
      simpa using this
    · rcases isDelimiter_cases hx' with rfl | rfl | rfl | rfl | rfl | rfl <;> decide
  have hupper : Text.upperChar c = [c] := by
    simpa using Text.forall_digit (q := fun c => Text.upperChar c == [c]) (by decide) hc
  have hbits : Text.startsWith ['0', 'B'] (Text.upperChars ((c :: (cs ++ rest)).take 2)) = false := by
    cases hcs : cs ++ rest with
    | nil => simp [Text.upperChars, hupper, Text.startsWith, Text.dropStart?]
    | cons x xs =>
      obtain ⟨-, -, hB, hux⟩ := hsecond x (by rw [hcs]; rfl)
      simp [Text.upperChars, hupper, hux, Text.startsWith, Text.dropStart?, Ne.symm hB]
  have hword : wordSize rest = 0 := by
    simpa using wordSize_name (w := []) (by simp) hrest
  have hnumber : number d (c :: (cs ++ rest)) =
      .token .number (String.ofList (c :: cs)) (c :: cs).length := by
    unfold number
    split
    · next h => exact ((hsecond 'x' (by simp [(List.cons.inj h).2])).1 rfl).elim
    · next h => exact ((hsecond 'X' (by simp [(List.cons.inj h).2])).2.1 rfl).elim
    · rw [List.cons_append] at hsize
      have hdrop : (c :: (cs ++ rest)).drop (c :: cs).length = rest := List.drop_left
      have htake : (c :: (cs ++ rest)).take (c :: cs).length = c :: cs := List.take_left
      simp only [hbits, hsize, hdrop, htake, hword, Bool.false_and, Nat.lt_irrefl, decide_false,
        Bool.and_false, Bool.false_eq_true, if_false]
  rw [piece, if_neg (by simp [hblank]), if_pos (Text.isDigit_of_isDigit hc), hnumber]

/-- A text between single quotation marks, those in it written twice. -/
def quoteText (content : List Char) : List Char :=
  content.flatMap fun c => if c == '\'' then ['\'', '\''] else [c]

theorem quoteText_cons_quote (content : List Char) :
    quoteText ('\'' :: content) = '\'' :: '\'' :: quoteText content := rfl

theorem quoteText_cons_of_ne {c : Char} (hc : c ≠ '\'') (content : List Char) :
    quoteText (c :: content) = c :: quoteText content := by
  simp [quoteText, hc]

theorem doubled_cons_of_ne {c : Char} {cs : List Char} (hc : c ≠ '\'') (hcs : cs ≠ []) :
    Quoted.doubled '\'' (c :: cs) = (Quoted.doubled '\'' cs).map (Quoted.cons [c] 1) := by
  obtain - | ⟨x, cs⟩ := cs
  · exact (hcs rfl).elim
  · have hbeq : (c == '\'') = false := by simpa using hc
    rw [Quoted.doubled, hbeq]
    rfl

theorem doubled_quoteText {rest : List Char} (hrest : rest.head? ≠ some '\'') (content : List Char) :
    Quoted.doubled '\'' (quoteText content ++ '\'' :: rest) =
      some ⟨content, (quoteText content).length + 1⟩ := by
  induction content with
  | nil =>
    obtain - | ⟨c, rest⟩ := rest
    · rfl
    · have hc : c ≠ '\'' := by simpa using hrest
      simp [quoteText, Quoted.doubled, hc]
  | cons c content ih =>
    by_cases hc : c = '\''
    · subst hc
      rw [quoteText_cons_quote]
      simp [Quoted.doubled, ih, Quoted.cons]
      omega
    · rw [quoteText_cons_of_ne hc, List.cons_append, doubled_cons_of_ne hc (by simp), ih]
      simp [Quoted.cons]
      omega

/-- The content of a text that is found again when it is written between quotation marks. In MySQL, a backslash
stands for itself only in front of the two marks of a pattern. -/
def StandsForItself (d : Dialect) (content : List Char) : Prop :=
  d = .mysql → (content ++ ['\'']).IsChain fun c x => c = '\\' → x = '%' ∨ x = '_'

instance (d : Dialect) (content : List Char) : Decidable (StandsForItself d content) :=
  inferInstanceAs (Decidable (d = .mysql → _))

theorem standsForItself_of_notMem (d : Dialect) {content : List Char} (hslash : '\\' ∉ content) :
    StandsForItself d content := by
  rintro -
  induction content with
  | nil => exact .singleton _
  | cons c content ih =>
    have htail := ih fun h => hslash (by simp [h])
    refine List.isChain_cons.mpr ⟨fun x _ hc => ?_, htail⟩
    exact (hslash (by simp [hc])).elim

theorem backslashed_cons_of_ne {c x : Char} (cs : List Char) (hc : c ≠ '\'')
    (hslash : c = '\\' → x = '%' ∨ x = '_') (hx : c = '"' → x ≠ '"') :
    Quoted.backslashed '\'' (c :: x :: cs) =
      (Quoted.backslashed '\'' (x :: cs)).map (Quoted.cons [c] 1) := by
  by_cases hescape : c = '\\'
  · subst hescape
    rcases hslash rfl with rfl | rfl <;> rw [Quoted.backslashed] <;> simp [Quoted.escape?]
  · have hpair : ((c == '\'' || c == '"') && c == x) = false := by
      by_cases hd : c = '"'
      · have hne := hx hd
        simp [hd, Ne.symm hne]
      · simp [hc, hd]
    rw [Quoted.backslashed]
    simp [hc, hescape, hpair]

/-- Two double quotation marks are taken at once, so that the induction may have to skip a character. -/
theorem backslashed_quoteText {rest : List Char} (hrest : rest.head? ≠ some '\'') :
    ∀ content : List Char, StandsForItself .mysql content →
      Quoted.backslashed '\'' (quoteText content ++ '\'' :: rest) =
        some ⟨content, (quoteText content).length + 1⟩
  | [], _ => by
    obtain - | ⟨c, rest⟩ := rest
    · rfl
    · have hc : '\'' ≠ c := by simpa [eq_comm] using hrest
      simp [quoteText, Quoted.backslashed, hc]
  | c :: content, hcontent => by
    obtain ⟨hslash, hmore⟩ := List.isChain_cons.mp (hcontent rfl)
    have ih := backslashed_quoteText hrest content fun _ => hmore
    by_cases hc : c = '\''
    · subst hc
      rw [quoteText_cons_quote, List.cons_append, List.cons_append, Quoted.backslashed]
      simp [ih, Quoted.cons]
      omega
    · rw [quoteText_cons_of_ne hc, List.cons_append]
      match content, ih, hslash, hmore with
      | [], ih, hslash, _ =>
        have hstep := backslashed_cons_of_ne (x := '\'') rest hc (hslash '\'' rfl) (fun _ => by decide)
        rw [quoteText, List.flatMap_nil, List.nil_append] at ih ⊢
        rw [hstep, ih]
        simp [Quoted.cons]
      | x :: content, ih, hslash, hmore =>
        by_cases hpair : c = '"' ∧ x = '"'
        · obtain ⟨rfl, rfl⟩ := hpair
          have hskip := backslashed_quoteText hrest content fun _ => hmore.tail
          rw [quoteText_cons_of_ne (by decide), List.cons_append, Quoted.backslashed]
          simp [hskip, Quoted.cons]
          omega
        · obtain ⟨y, ys, hy, hyx⟩ : ∃ y ys, quoteText (x :: content) ++ '\'' :: rest = y :: ys ∧ y = x := by
            by_cases hx : x = '\''
            · subst hx
              exact ⟨'\'', _, by rw [quoteText_cons_quote]; rfl, rfl⟩
            · exact ⟨x, _, by rw [quoteText_cons_of_ne hx]; rfl, rfl⟩
          subst hyx
          rw [hy, backslashed_cons_of_ne _ hc (hslash y rfl) fun h1 h2 => hpair ⟨h1, h2⟩, ← hy, ih]
          simp [Quoted.cons]
          omega

theorem text_quoteText {d : Dialect} {content rest : List Char} (hcontent : StandsForItself d content)
    (hrest : rest.head? ≠ some '\'') :
    Quoted.text d '\'' (quoteText content ++ '\'' :: rest) =
      some ⟨content, (quoteText content).length + 1⟩ := by
  cases d with
  | mysql => exact backslashed_quoteText hrest content hcontent
  | postgresql => exact doubled_quoteText hrest content
  | sqlite => exact doubled_quoteText hrest content

end Lexer

namespace Lexeme

open Lexer

def mark (c : Char) : Lexeme := token (.mark (String.singleton c)) (String.singleton c) [c]

theorem mark_cutBefore {d : Dialect} {c : Char} (hc : isSeparator c = true) (rest : List Char) :
    (mark c).CutBefore d rest :=
  ⟨c, [], rfl, piece_separator hc rest⟩

theorem minus_cutBefore {d : Dialect} {rest : List Char} (hrest : rest.head?.any (·.isDigit) = true) :
    (mark '-').CutBefore d rest := by
  obtain - | ⟨x, rest⟩ := rest
  · cases hrest
  · exact ⟨'-', [], rfl, piece_minus d (by simpa using hrest) rest⟩

theorem blank_cutBefore {d : Dialect} {c : Char} (hc : Text.isBlank c = true) (rest : List Char) :
    (blank c).CutBefore d rest :=
  ⟨c, [], rfl, by rw [Lexer.piece, if_pos hc]; rfl⟩

def number (digits : List Char) : Lexeme := token .number (String.ofList digits) digits

theorem number_cutBefore {d : Dialect} {digits rest : List Char} (hne : digits ≠ [])
    (hdigits : ∀ c ∈ digits, c.isDigit = true) (hrest : Delimited rest) :
    (number digits).CutBefore d rest := by
  obtain - | ⟨c, cs⟩ := digits
  · exact (hne rfl).elim
  · exact ⟨c, cs, rfl, piece_number hdigits hrest⟩

def text (content : List Char) : Lexeme :=
  token .text (String.ofList content) ('\'' :: quoteText content ++ ['\''])

theorem text_cutBefore {d : Dialect} {content rest : List Char} (hcontent : StandsForItself d content)
    (hrest : Delimited rest) : (text content).CutBefore d rest := by
  have hquote : rest.head? ≠ some '\'' := fun h => absurd (hrest '\'' h) (by decide)
  refine ⟨'\'', quoteText content ++ ['\''], rfl, ?_⟩
  have hblank : Text.isBlank '\'' = false := by decide
  have hdigit : Text.isDigit '\'' = false := by decide
  have hname : nameMark? d '\'' = none := by cases d <;> rfl
  have hcomment (cs : List Char) : comment? d ('\'' :: cs) = none := comment?_eq_none d cs (by decide)
  rw [List.append_assoc, List.singleton_append]
  rw [Lexer.piece, hblank, hdigit, hname, hcomment]
  simp only [Bool.false_eq_true, if_false, Lexer.text?, text_quoteText hcontent hquote]
  simp [ofQuoted, text, piece]
  omega

/-- A comment up to the end of its line. -/
def lineComment (s : List Char) : Lexeme := comment (String.ofList s) ('-' :: '-' :: s)

theorem lineComment_cutBefore {d : Dialect} {s rest : List Char} (hs : ∀ c ∈ s, c ≠ '\n' ∧ c ≠ '\r')
    (hrest : ∀ c ∈ rest.head?, c = '\n') : (lineComment s).CutBefore d rest := by
  refine ⟨'-', '-' :: s, rfl, ?_⟩
  have htake : ('-' :: '-' :: (s ++ rest)).takeWhile (fun c => c != '\n' && c != '\r') = '-' :: '-' :: s := by
    have hstop : rest.takeWhile (fun c => c != '\n' && c != '\r') = [] := by
      obtain - | ⟨c, rest⟩ := rest
      · rfl
      · simp [hrest c rfl]
    rw [List.takeWhile_cons_of_pos (by decide), List.takeWhile_cons_of_pos (by decide),
      List.takeWhile_append_of_pos fun c hc => by simpa using hs c hc, hstop, List.append_nil]
  have hline : ('-' :: '-' :: (s ++ rest)).take (s.length + 1 + 1) = '-' :: '-' :: s := by simp
  have hblank : Text.isBlank '-' = false := by decide
  have hdigit : Text.isDigit '-' = false := by decide
  have hname : nameMark? d '-' = none := by cases d <;> rfl
  have hcomment : comment? d ('-' :: '-' :: (s ++ rest)) = some (Lexer.lineComment 2 ('-' :: '-' :: (s ++ rest))) := by
    simp [comment?, Text.startsWith, Text.dropStart?]
  rw [List.cons_append, Lexer.piece, hblank, hdigit, hname, hcomment]
  simp only [Bool.false_eq_true, if_false, Lexer.lineComment, lineSize, htake, List.length_cons, hline]
  simp [lineComment, piece]

end Lexeme

end SchemaDesk.Sql
