import SchemaDesk.Value.Display
/-!
Values in a canonical notation: ASCII only, fields sorted by name, one space after each separator.
-/

namespace SchemaDesk

namespace Text

/-- Characters beyond the basic plane are written as a pair of surrogates. -/
def escapedUnit (n : Nat) : List Char :=
  if n < 0x10000 then '\\' :: 'u' :: hexDigits 4 n
  else
    let m := n - 0x10000
    '\\' :: 'u' :: hexDigits 4 (0xD800 + m / 0x400) ++ '\\' :: 'u' :: hexDigits 4 (0xDC00 + m % 0x400)

def escapedChar (c : Char) : List Char :=
  if c == '"' || c == '\\' then ['\\', c]
  else if c == '\n' then ['\\', 'n']
  else if c == '\r' then ['\\', 'r']
  else if c == '\t' then ['\\', 't']
  else if c.toNat == 0x8 then ['\\', 'b']
  else if c.toNat == 0xC then ['\\', 'f']
  else if 0x20 ≤ c.toNat && c.toNat < 0x7F then [c]
  else escapedUnit c.toNat

def escaped (s : String) : String :=
  String.ofList ('"' :: s.toList.flatMap escapedChar ++ ['"'])

end Text

/-- Infinity has a name of its own in canonical notation. -/
def Binary64.canonical : Binary64 → String
  | infinite negative => if negative then "-Infinity" else "Infinity"
  | x => x.text

namespace Value

mutual

def canonical : Value → String
  | null => "null"
  | bool b => if b then "true" else "false"
  | int n => Text.intText n
  | real x => x.canonical
  | text s => Text.escaped s
  | list items => "[" ++ ", ".intercalate (canonicals items) ++ "]"
  | record fields =>
    let sorted := (canonicalFields fields).mergeSort fun a b => !(b.1 < a.1)
    "\x7b" ++ ", ".intercalate (sorted.map (·.2)) ++ "\x7d"

def canonicals : List Value → List String
  | [] => []
  | v :: vs => canonical v :: canonicals vs

/-- The fields in notation, each with its name. -/
def canonicalFields : List (String × Value) → List (String × String)
  | [] => []
  | (name, v) :: fields => (name, Text.escaped name ++ ": " ++ canonical v) :: canonicalFields fields

end

end Value

end SchemaDesk
