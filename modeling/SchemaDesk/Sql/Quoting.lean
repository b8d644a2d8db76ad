import SchemaDesk.Dialect
/-!
Texts and names between quotation marks: how their end is found and what their content is.
-/

namespace SchemaDesk.Sql

/-- What stands behind an opening quotation mark: the content, and how many characters there are up
to and with the closing mark. -/
structure Quoted where
  content : List Char
  size : Nat

namespace Quoted

/-- Adds characters in front of the content, written with `n` characters. -/
def cons (cs : List Char) (n : Nat) (q : Quoted) : Quoted := ⟨cs ++ q.content, n + q.size⟩

/-- The character that a letter behind a backslash stands for. -/
def escape? (c : Char) : Option Char :=
  match c with
  | 'a' => some (Char.ofNat 7)
  | 'b' => some (Char.ofNat 8)
  | 'f' => some (Char.ofNat 12)
  | 'n' => some '\n'
  | 'r' => some '\r'
  | 't' => some '\t'
  | 'v' => some (Char.ofNat 11)
  | '\\' => some '\\'
  | _ => none

/-- A closing mark that is written twice is part of the content. -/
def doubled (mark : Char) : List Char → Option Quoted
  | [] => none
  | c :: d :: cs =>
    if c == mark then
      if d == mark then (doubled mark cs).map (cons [mark] 2) else some ⟨[], 1⟩
    else (doubled mark (d :: cs)).map (cons [c] 1)
  | [c] => if c == mark then some ⟨[], 1⟩ else none

/-- A backslash takes the meaning of the closing mark and makes control characters. Before one of the
other marks that may enclose a text, both are kept. -/
def backslashed (mark : Char) : List Char → Option Quoted
  | [] => none
  | [c] => if c == mark then some ⟨[], 1⟩ else none
  | c :: d :: cs =>
    match if c == '\\' then escape? d else none with
    | some e => (backslashed mark cs).map (cons [e] 2)
    | none =>
      if c == '\\' && d == mark then (backslashed mark cs).map (cons [mark] 2)
      else if (c == '\'' || c == '"') && c == d then
        if d == mark then (backslashed mark cs).map (cons [mark] 2)
        else (backslashed mark cs).map (cons [c, d] 2)
      else if c == '\\' && (d == '\'' || d == '"') then
        (backslashed mark cs).map (cons [c, d] 2)
      else if c == mark then some ⟨[], 1⟩
      else (backslashed mark (d :: cs)).map (cons [c] 1)

/-- A text of a dialect. -/
def text (d : Dialect) (mark : Char) (cs : List Char) : Option Quoted :=
  match d with
  | .mysql => backslashed mark cs
  | _ => doubled mark cs

end Quoted

end SchemaDesk.Sql
