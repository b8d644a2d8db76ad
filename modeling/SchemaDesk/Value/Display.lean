import SchemaDesk.Number.Shortest
import SchemaDesk.Text.Digit
import SchemaDesk.Value
/-!
Values as display text. A text stands for itself at the top and is quoted inside of lists and
records.
-/

namespace SchemaDesk

namespace Text

/-- Lower-case hexadecimal digits, at least `width` of them. -/
def hexDigits (width n : Nat) : List Char :=
  let ds := Nat.toDigits 16 n
  List.replicate (width - ds.length) '0' ++ ds

/-- Shown as itself between quotes. -/
def isVisible (c : Char) : Bool := inRanges ClassTable.visibleRanges c

def quotedChar (mark c : Char) : List Char :=
  if c == mark || c == '\\' then ['\\', c]
  else if c == '\n' then ['\\', 'n']
  else if c == '\r' then ['\\', 'r']
  else if c == '\t' then ['\\', 't']
  else if isVisible c then [c]
  else if c.toNat < 0x100 then '\\' :: 'x' :: hexDigits 2 c.toNat
  else if c.toNat < 0x10000 then '\\' :: 'u' :: hexDigits 4 c.toNat
  else '\\' :: 'U' :: hexDigits 8 c.toNat

/-- A text between single quotes, or between double quotes if it has a single quote and no double
one. -/
def quoted (s : String) : String :=
  let mark := if s.contains '\'' && !s.contains '"' then '"' else '\''
  String.ofList (mark :: s.toList.flatMap (quotedChar mark) ++ [mark])

end Text

namespace Value

mutual

/-- The text of a value inside of another one. -/
def inner : Value → String
  | null => "None"
  | bool b => if b then "True" else "False"
  | int n => Text.intText n
  | real x => x.text
  | text s => Text.quoted s
  | list items => "[" ++ ", ".intercalate (inners items) ++ "]"
  | record fields => "\x7b" ++ ", ".intercalate (innerFields fields) ++ "\x7d"

def inners : List Value → List String
  | [] => []
  | v :: vs => inner v :: inners vs

def innerFields : List (String × Value) → List String
  | [] => []
  | (name, v) :: fields => (Text.quoted name ++ ": " ++ inner v) :: innerFields fields

end

def display : Value → String
  | text s => s
  | v => v.inner

end Value

end SchemaDesk
