import SchemaDesk.Proofs.Sql.Lexing.Lexeme
import SchemaDesk.Proofs.Text.Name
/-!
Where the lexer cuts words off: a word ends in front of a blank or a mark, and two words are one phrase
only if both of them are known.
-/

namespace SchemaDesk.Sql

namespace Lexer

open Text (isName isNameStart isNameChar upperChars)

/-- The characters that stand behind words and values in a definition. -/
def isDelimiter (c : Char) : Bool := [' ', '\n', '(', ')', ',', ';'].contains c

def Delimited (rest : List Char) : Prop := ∀ c ∈ rest.head?, isDelimiter c = true

theorem delimited_cons {c : Char} {cs : List Char} (h : isDelimiter c = true) : Delimited (c :: cs) := by
  simpa [Delimited] using h

theorem isDelimiter_cases {c : Char} (h : isDelimiter c = true) :
    c = ' ' ∨ c = '\n' ∨ c = '(' ∨ c = ')' ∨ c = ',' ∨ c = ';' := by
  simpa [isDelimiter] using h

theorem isBreaker_of_isDelimiter {c : Char} (h : isDelimiter c = true) : isBreaker c = true := by
  rcases isDelimiter_cases h with rfl | rfl | rfl | rfl | rfl | rfl <;> decide

theorem upperChar_of_isDelimiter {c : Char} (h : isDelimiter c = true) : Text.upperChar c = [c] := by
  rcases isDelimiter_cases h with rfl | rfl | rfl | rfl | rfl | rfl <;> decide

theorem isBreaker_of_isNameChar {c : Char} (h : isNameChar c) : isBreaker c = false := by
  simpa using Text.forall_nameChar (q := fun c => !isBreaker c) (by decide) h

theorem takeWhile_name {w rest : List Char} (hw : ∀ c ∈ w, isNameChar c) (hrest : Delimited rest) :
    (w ++ rest).takeWhile (fun c => !isBreaker c) = w := by
  rw [List.takeWhile_append_of_pos fun c hc => by simp [isBreaker_of_isNameChar (hw c hc)]]
  cases rest with
  | nil => simp
  | cons c cs => simp [isBreaker_of_isDelimiter (hrest c rfl)]

theorem wordSize_name {w rest : List Char} (hw : ∀ c ∈ w, isNameChar c) (hrest : Delimited rest) :
    wordSize (w ++ rest) = w.length := by
  rw [wordSize, takeWhile_name hw hrest]

/-- The first word of a phrase, and what stands behind it. -/
def firstWord (p : List Char) : List Char := p.takeWhile (· != ' ')

def behindFirstWord (p : List Char) : List Char := p.dropWhile (· != ' ')

/-- A phrase has a character that no name has, and none of its characters ends a word but the blank. -/
structure IsPhrase (p : List Char) : Prop where
  not_name : p.all isNameChar = false
  not_delimiter : ∀ c ∈ p, c = ' ' ∨ isDelimiter c = false

theorem isPhrase_ofPhrases (d : Dialect) : ∀ q ∈ Keyword.ofPhrases d, IsPhrase q.1.toList := by
  have hall : ∀ q ∈ Keyword.ofPhrases d, q.1.toList.all isNameChar = false ∧
      q.1.toList.all (fun c => c == ' ' || !isDelimiter c) = true := by
    cases d <;> decide
  intro q hq
  refine ⟨(hall q hq).1, fun c hc => ?_⟩
  simpa using List.all_eq_true.mp (hall q hq).2 c hc

/-- A phrase starts with a word if its first word is that word, and the rest stands behind it. -/
theorem phraseSize?_name {p w rest : List Char} (hp : IsPhrase p) (hw : ∀ c ∈ w, isNameChar c)
    (hrest : Delimited rest) :
    phraseSize? p (w ++ rest) =
      if firstWord p = upperChars w then
        (phraseSize? (behindFirstWord p) rest).map (· + w.length)
      else none := by
  induction w generalizing p with
  | nil =>
    obtain - | ⟨c, p⟩ := p
    · cases hp.not_name
    by_cases hc : c = ' '
    · simp [firstWord, behindFirstWord, upperChars, hc]
    · have hfirst : firstWord (c :: p) ≠ upperChars [] := by simp [firstWord, upperChars, hc]
      rw [if_neg hfirst, List.nil_append]
      obtain - | ⟨r, rest⟩ := rest
      · rw [phraseSize?]
      · have hr := hrest r rfl
        have hne : r ≠ c := by
          rintro rfl
          rcases hp.not_delimiter r (by simp) with h | h
          · exact hc h
          · rw [hr] at h; cases h
        rw [phraseSize?]
        simp [hc, upperChar_of_isDelimiter hr, hne]
  | cons x w ih =>
    have hx : isNameChar x := hw x (by simp)
    obtain - | ⟨c, p⟩ := p
    · cases hp.not_name
    rw [List.cons_append, phraseSize?]
    by_cases hc : c = ' '
    · have hfirst : firstWord (c :: p) ≠ upperChars (x :: w) := by
        simp [firstWord, upperChars, hc, Text.upperChar_of_isNameChar hx]
      simp [hc, Text.isBlank_of_isNameChar hx, hc ▸ hfirst]
    · have hcons : firstWord (c :: p) = c :: firstWord p := by simp [firstWord, hc]
      have hbehind : behindFirstWord (c :: p) = behindFirstWord p := by simp [behindFirstWord, hc]
      have hupper : upperChars (x :: w) = x.toUpper :: upperChars w := by
        simp [upperChars, Text.upperChar_of_isNameChar hx]
      have hbeq : (c == ' ') = false := by simpa using hc
      rw [hcons, hbehind, hupper, Text.upperChar_of_isNameChar hx, hbeq]
      by_cases hxc : x.toUpper = c
      · have hcname : isNameChar c := by
          rw [← hxc]
          exact Text.toUpper_nameChar hx
        have hp' : IsPhrase p := by
          refine ⟨?_, fun y hy => hp.not_delimiter y (by simp [hy])⟩
          simpa [hcname] using hp.not_name
        rw [ih hp' fun y hy => hw y (by simp [hy])]
        subst hxc
        have hsum : ((fun n => n + 1) ∘ fun n => n + w.length) = fun n => n + (w.length + 1) := rfl
        by_cases hfirst : firstWord p = upperChars w <;> simp [hfirst, hsum]
      · have hxc' : ¬ c = x.toUpper := fun h => hxc h.symm
        simp [hxc, hxc']

/-- The words of a phrase do not stand at the start of the text. -/
def NoWords (p rest : List Char) : Prop :=
  ∀ n, phraseSize? p rest = some n → ∃ c ∈ (rest.drop n).head?, isBreaker c = false

theorem NoWords.of_none {p rest : List Char} (h : phraseSize? p rest = none) : NoWords p rest := by
  intro n hn
  rw [h] at hn
  cases hn

/-- A word is not another one, even if it starts with it. -/
theorem noWords_of_ne {v u rest : List Char} (hv : ∀ c ∈ v, isNameChar c) (hu : ∀ c ∈ u, isNameChar c)
    (hrest : Delimited rest) (hne : v ≠ upperChars u) : NoWords v (u ++ rest) := by
  induction v generalizing u with
  | nil =>
    intro n hn
    obtain rfl : n = 0 := by simpa [phraseSize?] using hn.symm
    obtain - | ⟨c, u⟩ := u
    · exact (hne rfl).elim
    · exact ⟨c, rfl, isBreaker_of_isNameChar (hu c (by simp))⟩
  | cons p v ih =>
    have hp : isNameChar p := hv p (by simp)
    have hblank : (p == ' ') = false := by
      simpa using fun h : p = ' ' => absurd (h ▸ hp) (by decide)
    obtain - | ⟨c, u⟩ := u
    · refine .of_none ?_
      obtain - | ⟨r, rest⟩ := rest
      · rw [List.nil_append, phraseSize?]
      · have hr := hrest r rfl
        have hrp : r ≠ p := by
          rintro rfl
          exact absurd (isBreaker_of_isDelimiter hr) (by simp [isBreaker_of_isNameChar hp])
        rw [List.nil_append, phraseSize?, hblank, upperChar_of_isDelimiter hr]
        simp [hrp]
    · have hc : isNameChar c := hu c (by simp)
      have hupper : upperChars (c :: u) = c.toUpper :: upperChars u := by
        simp [upperChars, Text.upperChar_of_isNameChar hc]
      intro n hn
      rw [List.cons_append, phraseSize?, hblank, Text.upperChar_of_isNameChar hc] at hn
      by_cases hcp : c.toUpper = p
      · simp only [hcp, beq_self_eq_true, Bool.false_eq_true, if_false, if_true,
          Option.map_eq_some_iff] at hn
        obtain ⟨m, hm, rfl⟩ := hn
        refine ih (fun x hx => hv x (by simp [hx])) (fun x hx => hu x (by simp [hx])) (fun h => ?_) m hm
        exact hne (by rw [hupper, hcp, h])
      · simp [hcp] at hn

/-- A word behind blanks is not another one. -/
theorem noWords_behind_blanks (bs : List Char) {v u rest : List Char}
    (hbs : ∀ b ∈ bs, Text.isBlank b = true)
    (hstart : ∀ c ∈ (u ++ rest).head?, Text.isBlank c = false) (hv : ∀ c ∈ v, isNameChar c)
    (hu : ∀ c ∈ u, isNameChar c) (hrest : Delimited rest) (hne : v ≠ upperChars u) :
    NoWords (' ' :: v) (bs ++ (u ++ rest)) := by
  have hdrop : (u ++ rest).dropWhile Text.isBlank = u ++ rest := by
    cases h : u ++ rest with
    | nil => rfl
    | cons c cs => simp [hstart c (by simp [h])]
  obtain - | ⟨b, bs⟩ := bs
  · refine .of_none ?_
    rw [List.nil_append]
    cases h : u ++ rest with
    | nil => rw [phraseSize?]
    | cons c cs =>
      rw [phraseSize?, hstart c (by simp [h])]
      simp
  · have hb : Text.isBlank b = true := hbs b (by simp)
    have htake : (b :: (bs ++ (u ++ rest))).takeWhile Text.isBlank = b :: bs := by
      have hnone : (u ++ rest).takeWhile Text.isBlank = [] := by
        cases h : u ++ rest with
        | nil => rfl
        | cons c cs => simp [hstart c (by simp [h])]
      rw [← List.cons_append, List.takeWhile_append_of_pos hbs, hnone, List.append_nil]
    intro n hn
    rw [List.cons_append, phraseSize?, hb, htake,
      List.dropWhile_append_of_pos fun c hc => hbs c (by simp [hc]), hdrop] at hn
    simp only [beq_self_eq_true, if_true, Option.map_eq_some_iff] at hn
    obtain ⟨m, hm, rfl⟩ := hn
    have h := noWords_of_ne hv hu hrest hne m hm
    rwa [Nat.add_comm, ← List.drop_drop, List.drop_left]

theorem phraseSize?_append {v : List Char} (hv : ∀ c ∈ v, isNameChar c ∧ c.toUpper = c)
    (rest : List Char) : phraseSize? v (v ++ rest) = some v.length := by
  induction v with
  | nil => simp [phraseSize?]
  | cons c v ih =>
    obtain ⟨hc, hupper⟩ := hv c (by simp)
    have hblank : c ≠ ' ' := by rintro rfl; exact absurd hc (by decide)
    rw [List.cons_append, phraseSize?, Text.upperChar_of_isNameChar hc, hupper,
      ih fun x hx => hv x (by simp [hx])]
    simp [hblank]

theorem phraseSize?_blank_append {v : List Char} (hv : ∀ c ∈ v, isNameChar c ∧ c.toUpper = c)
    (hne : v ≠ []) (rest : List Char) :
    phraseSize? (' ' :: v) (' ' :: v ++ rest) = some (v.length + 1) := by
  obtain - | ⟨c, v⟩ := v
  · exact (hne rfl).elim
  have hc : Text.isBlank c = false := Text.isBlank_of_isNameChar (hv c (by simp)).1
  have hspace : Text.isBlank ' ' = true := by decide
  have h := phraseSize?_append hv rest
  rw [List.cons_append] at h
  rw [List.cons_append, List.cons_append, phraseSize?]
  simp [hc, hspace, h]

end Lexer

end SchemaDesk.Sql
