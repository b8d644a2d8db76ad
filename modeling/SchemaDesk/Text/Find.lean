/-!
Searching a text for another one.
-/

namespace SchemaDesk.Text

/-- The rest of the text behind `p`, when the text starts with it. -/
def dropStart? : List Char → List Char → Option (List Char)
  | [], cs => some cs
  | _ :: _, [] => none
  | p :: ps, c :: cs => if p = c then dropStart? ps cs else none

def startsWith (p cs : List Char) : Bool := (dropStart? p cs).isSome

/-- The offset of the first occurrence of `p`. -/
def find? (p : List Char) : List Char → Option Nat
  | [] => if p.isEmpty then some 0 else none
  | c :: cs => if startsWith p (c :: cs) then some 0 else (find? p cs).map (· + 1)

def contains (p cs : List Char) : Bool := (find? p cs).isSome

/-- The offset of the last occurrence of `p`. -/
def findLast? (p : List Char) : List Char → Option Nat
  | [] => if p.isEmpty then some 0 else none
  | c :: cs =>
    match findLast? p cs with
    | some i => some (i + 1)
    | none => if startsWith p (c :: cs) then some 0 else none

def hasWord (s : String) (p : String) : Bool := contains p.toList s.toList

/-- All occurrences of `old` from the left, none overlapping, replaced by `new`. The counter tells
how many characters of the last occurrence are still to be skipped. -/
def replaceFrom (old new : List Char) : Nat → List Char → List Char
  | _, [] => []
  | n + 1, _ :: cs => replaceFrom old new n cs
  | 0, c :: cs =>
    if startsWith old (c :: cs) then new ++ replaceFrom old new (old.length - 1) cs
    else c :: replaceFrom old new 0 cs

/-- Replaces every occurrence; an empty `old` occurs before each character and at the end. -/
def replaceChars (old new cs : List Char) : List Char :=
  if old.isEmpty then new ++ cs.flatMap fun c => c :: new else replaceFrom old new 0 cs

def replace (s old new : String) : String :=
  String.ofList (replaceChars old.toList new.toList s.toList)

def endsWith (p cs : List Char) : Bool := startsWith p.reverse cs.reverse

/-- The text without its ending `p`, when it ends with it. -/
def dropEnd? (p cs : List Char) : Option (List Char) :=
  (dropStart? p.reverse cs.reverse).map List.reverse

end SchemaDesk.Text
