import SchemaDesk.Text.Digit
/-!
Looking for words whatever their letter case. Besides the two cases of a letter, the dotless and the
dotted `i`, the long `s` and the sign for kelvin count as the letters that they look like.
-/

namespace SchemaDesk.Text

/-- The character counts as the given small letter. -/
def isLetter (small c : Char) : Bool :=
  c == small || c == small.toUpper ||
    (small == 'i' && (c == 'ı' || c == 'İ')) || (small == 's' && c == 'ſ') ||
    (small == 'k' && c == Char.ofNat 0x212A)

/-- The rest of the text behind a word in small letters. -/
def dropCaseless? : List Char → List Char → Option (List Char)
  | [], cs => some cs
  | _ :: _, [] => none
  | p :: ps, c :: cs => if isLetter p c then dropCaseless? ps cs else none

def dropBlanks (cs : List Char) : List Char := cs.dropWhile isBlank

/-- The rest behind some blanks, one at least. -/
def dropSomeBlanks? : List Char → Option (List Char)
  | [] => none
  | c :: cs => if isBlank c then some (dropBlanks cs) else none

/-- The rest behind some words with blanks between them. -/
def dropWords? : List String → List Char → Option (List Char)
  | [], cs => some cs
  | [w], cs => dropCaseless? w.toList cs
  | w :: ws, cs => do dropWords? ws (← dropSomeBlanks? (← dropCaseless? w.toList cs))

/-- No letter, numeral or underscore stands at the start. -/
def endsWord : List Char → Bool
  | [] => true
  | c :: _ => !isWordChar c

/-- What a reader finds at the first place where it finds something. -/
def firstMatch (find : List Char → Option α) : List Char → Option α
  | [] => find []
  | c :: cs =>
    match find (c :: cs) with
    | some a => some a
    | none => firstMatch find cs

/-- All that a reader finds from the left, none overlapping. The reader tells how many characters it
takes; the counter tells how many of them are still to be skipped. -/
def allMatches (find : List Char → Option (α × Nat)) : Nat → List Char → List α
  | _, [] => []
  | n + 1, _ :: cs => allMatches find n cs
  | 0, c :: cs =>
    match find (c :: cs) with
    | some (a, size) => a :: allMatches find (size - 1) cs
    | none => allMatches find 0 cs

end SchemaDesk.Text
