import SchemaDesk.Proofs.Sql.Lexing.Word
/-!
The lexemes of which definitions consist: words, phrases, marks, numbers, texts, and comments up to the
end of the line.
-/

namespace SchemaDesk.Sql

namespace Lexer

open Text (isName isNameStart isNameChar upperChars)

theorem startsWith_cons_of_ne {p c : Char} (h : p ≠ c) (ps cs : List Char) :
    Text.startsWith (p :: ps) (c :: cs) = false := by
  simp [Text.startsWith, Text.dropStart?, h]

/-- A text that starts like none of some others. -/
theorem startsWith_eq_false {p : List Char} {c : Char} {cs : List Char} (hp : p.head?.all (· != c))
    (hne : p ≠ []) : Text.startsWith p (c :: cs) = false := by
  obtain - | ⟨x, p⟩ := p
  · exact (hne rfl).elim
  · exact startsWith_cons_of_ne (by simpa using hp) p cs

theorem comment?_eq_none {c : Char} (d : Dialect) (cs : List Char)
    (hc : (['-', '#', '/', '\x7b'] : List Char).contains c = false) : comment? d (c :: cs) = none := by
  simp only [List.contains_cons, List.contains_nil, Bool.or_false, Bool.or_eq_false_iff, beq_eq_false_iff_ne] at hc
  obtain ⟨h1, h2, h3, h4⟩ := hc
  simp [comment?, blockMarks, templateMarks, startsWith_cons_of_ne, Ne.symm h1, Ne.symm h2, Ne.symm h3,
    Ne.symm h4]

/-- The letters that tell the kind of a text in front of it. -/
def kindLetters : List Char := ['n', 'N', 'x', 'X', 'b', 'B', 'e', 'E']

theorem text?_eq_none {d : Dialect} {c : Char} {cs : List Char} (hc : c ≠ '\'' ∧ c ≠ '"')
    (hcs : cs.head? ≠ some '\'' ∨ kindLetters.contains c = false) : text? d (c :: cs) = none := by
  unfold text?
  split
  · next h => cases h; exact (hc.1 rfl).elim
  · next h => cases h; exact (hc.2 rfl).elim
  · next h =>
    cases h
    rcases hcs with hcs | hcs
    · exact (hcs rfl).elim
    · simp only [kindLetters, List.contains_cons, List.contains_nil, Bool.or_false, Bool.or_eq_false_iff] at hcs
      simp [hcs]
  · rfl

theorem dollar?_eq_none {d : Dialect} {c : Char} {cs : List Char} (hc : c ≠ '$') :
    dollar? d (c :: cs) = none := by
  unfold dollar?
  split
  · next h => cases h; exact (hc rfl).elim
  · rfl

theorem mark?_eq_none {d : Dialect} {c : Char} {cs : List Char}
    (h : ∀ m ∈ Keyword.dialectMarks d ++ Keyword.commonMarks, m.toList.head?.all (· != c)) :
    mark? d (c :: cs) = none := by
  have hne : ∀ m ∈ Keyword.dialectMarks d ++ Keyword.commonMarks, m.toList ≠ [] := by
    cases d <;> decide
  rw [mark?, List.find?_eq_none]
  intro m hm
  simp [startsWith_eq_false (h m hm) (hne m hm)]

theorem phrase?_eq_none {d : Dialect} {cs : List Char}
    (h : ∀ q ∈ Keyword.ofPhrases d, NoWords q.1.toList cs) : phrase? d cs = none := by
  rw [phrase?, List.findSome?_eq_none_iff]
  rintro ⟨p, k⟩ hq
  cases hsize : phraseSize? p.toList cs with
  | none => simp [hsize]
  | some n =>
    obtain ⟨c, hc, hbreaker⟩ := h _ hq n hsize
    cases hdrop : cs.drop n with
    | nil =>
      rw [hdrop] at hc
      cases hc
    | cons x rest =>
      rw [hdrop] at hc
      obtain rfl : x = c := by simpa using hc
      simp [hsize, hdrop, hbreaker]

/-- A phrase starts with a letter. -/
theorem phrase?_eq_none_of_mark {d : Dialect} {c : Char} {cs : List Char} (hc : isNameChar c = false)
    (hupper : Text.upperChar c = [c]) : phrase? d (c :: cs) = none := by
  have hstart : ∀ q ∈ Keyword.ofPhrases d, q.1.toList.head?.any isNameChar = true := by
    cases d <;> decide
  refine phrase?_eq_none fun q hq => .of_none ?_
  have hhead := hstart q hq
  cases hchars : q.1.toList with
  | nil => rw [hchars] at hhead; cases hhead
  | cons x p =>
    rw [hchars] at hhead
    have hx : isNameChar x = true := by simpa using hhead
    have hne : c ≠ x := by rintro rfl; rw [hx] at hc; cases hc
    have hblank : x ≠ ' ' := by rintro rfl; exact absurd hx (by decide)
    rw [phraseSize?]
    simp [hupper, hne, hblank]

/-- What stands behind a word does not make a phrase of it. -/
def NoPhrase (d : Dialect) (w rest : List Char) : Prop :=
  ∀ q ∈ Keyword.ofPhrases d, firstWord q.1.toList = upperChars w →
    NoWords (behindFirstWord q.1.toList) rest

theorem forall_marks_head_nameChar (d : Dialect) {c : Char} (hc : isNameChar c) :
    ∀ m ∈ Keyword.dialectMarks d ++ Keyword.commonMarks, m.toList.head?.all (· != c) := by
  have h := Text.forall_nameChar (q := fun c =>
    (Keyword.dialectMarks d ++ Keyword.commonMarks).all fun m => m.toList.head?.all (· != c))
    (by cases d <;> decide) hc
  exact List.all_eq_true.mp h

theorem nameMark?_eq_none (d : Dialect) {c : Char} (hc : isNameChar c) : nameMark? d c = none := by
  have h := Text.forall_nameChar (q := fun c => (nameMark? d c).isNone) (by cases d <;> decide) hc
  simpa using h

/-- Letters at the start make a phrase or a word. -/
theorem piece_letters {d : Dialect} {c : Char} {cs rest : List Char} (hname : isName (c :: cs))
    (hrest : Delimited rest) :
    piece d c (cs ++ rest) =
      match phrase? d (c :: cs ++ rest) with
      | some (kind, n) => .token kind (String.ofList ((c :: cs ++ rest).take n)) n
      | none => markOrWord d c (cs ++ rest) := by
  obtain ⟨hstart, hcs⟩ : isNameStart c ∧ ∀ x ∈ cs, isNameChar x := by simpa [isName] using hname
  have hc : isNameChar c := Text.isNameChar_of_isNameStart hstart
  have hquote : c ≠ '\'' ∧ c ≠ '"' ∧ c ≠ '$' ∧
      (['-', '#', '/', '\x7b'] : List Char).contains c = false := by
    have h := Text.forall_nameChar (q := fun c => decide (c ≠ '\'' ∧ c ≠ '"' ∧ c ≠ '$' ∧
      (['-', '#', '/', '\x7b'] : List Char).contains c = false)) (by decide) hc
    simpa using h
  have hsecond : (cs ++ rest).head? ≠ some '\'' := by
    obtain - | ⟨x, cs⟩ := cs
    · exact fun h => absurd (hrest '\'' h) (by decide)
    · intro h
      obtain rfl : x = '\'' := by simpa using h
      exact absurd (hcs '\'' (by simp)) (by decide)
  rw [piece, Text.isBlank_of_isNameChar hc, Text.isDigit_of_isNameStart hstart, nameMark?_eq_none d hc,
    comment?_eq_none d _ hquote.2.2.2, text?_eq_none ⟨hquote.1, hquote.2.1⟩ (Or.inl hsecond),
    dollar?_eq_none hquote.2.2.1]
  rfl

theorem forall_isNameChar {c : Char} {cs : List Char} (h : isName (c :: cs)) :
    ∀ x ∈ c :: cs, isNameChar x := by
  obtain ⟨hstart, hcs⟩ : isNameStart c ∧ ∀ x ∈ cs, isNameChar x := by simpa [isName] using h
  simpa using ⟨Text.isNameChar_of_isNameStart hstart, hcs⟩

/-- What the lexer makes of a word of its own. -/
theorem piece_name {d : Dialect} {c : Char} {cs rest : List Char} (hname : isName (c :: cs))
    (hrest : Delimited rest) (hphrase : NoPhrase d (c :: cs) rest) :
    piece d c (cs ++ rest) =
      .token (Keyword.ofWord d (Text.upper (String.ofList (c :: cs)))) (String.ofList (c :: cs))
        (c :: cs).length := by
  have hall := forall_isNameChar hname
  have hc : isNameChar c := hall c (by simp)
  have hnone : phrase? d (c :: cs ++ rest) = none := by
    refine phrase?_eq_none fun q hq => ?_
    intro n hn
    rw [phraseSize?_name (isPhrase_ofPhrases d q hq) hall hrest] at hn
    split at hn
    · next h =>
      obtain ⟨m, hm, rfl⟩ := Option.map_eq_some_iff.mp hn
      rw [Nat.add_comm, ← List.drop_drop, List.drop_left]
      exact hphrase q hq h m hm
    · cases hn
  have hbreaker : Keyword.breakers.contains c = false := by
    have := isBreaker_of_isNameChar hc
    rw [isBreaker, Bool.or_eq_false_iff] at this
    exact this.2
  have hsize := wordSize_name hall hrest
  have hmax : max 1 (c :: cs).length = (c :: cs).length := by simp
  have htake : (c :: cs ++ rest).take (c :: cs).length = c :: cs := List.take_left
  rw [List.cons_append] at hsize htake
  rw [piece_letters hname hrest, hnone]
  simp only [markOrWord, mark?_eq_none (forall_marks_head_nameChar d hc), hbreaker, Bool.false_eq_true,
    if_false, word, hsize, hmax, htake]

/-- What the lexer makes of the first word of a phrase. -/
theorem piece_phrase {d : Dialect} {c : Char} {cs rest : List Char} {k : TokenKind} {n : Nat}
    (hname : isName (c :: cs)) (hrest : Delimited rest)
    (hphrase : phrase? d (c :: cs ++ rest) = some (k, n)) :
    piece d c (cs ++ rest) = .token k (String.ofList ((c :: cs ++ rest).take n)) n := by
  rw [piece_letters hname hrest, hphrase]

end Lexer

namespace Lexeme

open Lexer
open Text (isNameChar)

/-- A token that is written as its text. -/
def verbatim (k : TokenKind) (s : String) : Lexeme := token k s s.toList

/-- A word has the kind that the dialect gives it. -/
theorem word_cutBefore {d : Dialect} {k : TokenKind} {s : String} {rest : List Char}
    (hname : Text.isName s.toList) (hk : Keyword.ofWord d (Text.upper s) = k) (hrest : Delimited rest)
    (hphrase : NoPhrase d s.toList rest) : (verbatim k s).CutBefore d rest := by
  cases hs : s.toList with
  | nil => rw [hs] at hname; cases hname
  | cons c cs =>
    rw [hs] at hname hphrase
    refine ⟨c, cs, hs, ?_⟩
    have hofList : String.ofList (c :: cs) = s := by rw [← hs, String.ofList_toList]
    rw [piece_name hname hrest hphrase, hofList, hk, verbatim, piece, hs]

theorem ends_of_delimited {α : Type} (a : α) (rest : List Char) :
    Delimited rest →
      (match rest with
        | [] => some a
        | r :: _ => if isBreaker r then some a else none) = some a := by
  intro hrest
  obtain - | ⟨r, rest⟩ := rest
  · rfl
  · simp [isBreaker_of_isDelimiter (hrest r rfl)]

/-- A phrase is cut off as a whole if no other one starts with its first word. -/
theorem phrase_cutBefore {d : Dialect} {k : TokenKind} {s : String} {c : Char} {w v rest : List Char}
    (hs : s.toList = c :: w ++ ' ' :: v) (hname : Text.isName (c :: w))
    (hupper : Text.upperChars (c :: w) = c :: w) (hmem : (s, k) ∈ Keyword.ofPhrases d)
    (honly : ∀ q ∈ Keyword.ofPhrases d, firstWord q.1.toList = c :: w → q = (s, k))
    (hv : ∀ c ∈ v, isNameChar c ∧ c.toUpper = c) (hne : v ≠ [])
    (hrest : Delimited rest) : (verbatim k s).CutBefore d rest := by
  have hall := forall_isNameChar hname
  have hblank : Delimited (' ' :: v ++ rest) := delimited_cons rfl
  have hnot : ∀ x ∈ c :: w, (x != ' ') = true := fun x hx =>
    Text.forall_nameChar (q := fun c => c != ' ') (by decide) (hall x hx)
  have hfirst : firstWord s.toList = c :: w := by
    rw [hs, firstWord, List.takeWhile_append_of_pos hnot]
    simp
  have hbehind : behindFirstWord s.toList = ' ' :: v := by
    rw [hs, behindFirstWord, List.dropWhile_append_of_pos hnot]
    simp
  have hlength : s.toList.length = v.length + 1 + (c :: w).length := by
    rw [hs]; simp; omega
  have hwhole : s.toList ++ rest = c :: w ++ (' ' :: v ++ rest) := by rw [hs]; simp
  have hself : phraseSize? s.toList (s.toList ++ rest) = some s.toList.length := by
    rw [hwhole, phraseSize?_name (isPhrase_ofPhrases d _ hmem) hall hblank, hfirst, hupper, if_pos rfl,
      hbehind, phraseSize?_blank_append hv hne, Option.map_some, hlength]
  have hother : ∀ q ∈ Keyword.ofPhrases d, q ≠ (s, k) →
      phraseSize? q.1.toList (s.toList ++ rest) = none := by
    intro q hq hne
    rw [hwhole, phraseSize?_name (isPhrase_ofPhrases d q hq) hall hblank, hupper,
      if_neg fun h => hne (honly q hq h)]
  have hends := ends_of_delimited (k, s.toList.length) rest hrest
  have hphrase : phrase? d (s.toList ++ rest) = some (k, s.toList.length) := by
    cases hfound : phrase? d (s.toList ++ rest) with
    | none =>
      rw [phrase?, List.findSome?_eq_none_iff] at hfound
      have h := hfound _ hmem
      simp only [hself, List.drop_left] at h
      cases hends.symm.trans h
    | some found =>
      rw [phrase?] at hfound
      obtain ⟨q, hq, hfind⟩ := List.exists_of_findSome?_eq_some hfound
      by_cases hqs : q = (s, k)
      · subst hqs
        simp only [hself, List.drop_left] at hfind
        exact hfind.symm.trans hends
      · simp only [hother q hq hqs] at hfind
        cases hfind
  refine ⟨c, w ++ ' ' :: v, hs, ?_⟩
  have happend : w ++ ' ' :: v ++ rest = w ++ (' ' :: v ++ rest) := by simp
  rw [hwhole] at hphrase
  rw [happend, piece_phrase hname hblank hphrase, ← hwhole, List.take_left, String.ofList_toList, verbatim,
    piece]

end Lexeme

end SchemaDesk.Sql
