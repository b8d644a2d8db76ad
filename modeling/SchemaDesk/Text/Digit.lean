import SchemaDesk.Text.Blank
import SchemaDesk.Text.Case
import SchemaDesk.Text.ClassTable
/-!
Digits of all scripts, and integers written in decimal.
-/

namespace SchemaDesk.Text

/-- The value of a decimal digit of any script. -/
def digitValue? (c : Char) : Option Nat :=
  if c.toNat < 0x80 then
    if c.isDigit then some (c.toNat - 0x30) else none
  else
    (ClassTable.decimalZeros.find? fun z => z ≤ c.toNat && c.toNat ≤ z + 9).map (c.toNat - ·)

def isDecimal (c : Char) : Bool := (digitValue? c).isSome

/-- Decimal digits and the digits that form no numerals, such as superscripts. -/
def isDigit (c : Char) : Bool := isDecimal c || inRanges ClassTable.otherDigitRanges c

/-- A text of digits only, at least one. -/
def allDigits (cs : List Char) : Bool := !cs.isEmpty && cs.all isDigit

/-- Letters, numerals and the underscore. -/
def isWordChar (c : Char) : Bool := c == '_' || inRanges ClassTable.alphanumericRanges c

/-- The number that decimal digits denote, single underscores between them allowed; `none` for any
other character. `acc` is the number read so far. -/
def readDigits (acc : Nat) : List Char → Option Nat
  | [] => some acc
  | '_' :: c :: cs =>
    match digitValue? c with
    | some d => readDigits (10 * acc + d) cs
    | none => none
  | c :: cs =>
    match digitValue? c with
    | some d => readDigits (10 * acc + d) cs
    | none => none

/-- A natural number as decimal digits, the first of which must be there. -/
def readNat? : List Char → Option Nat
  | [] => none
  | c :: cs => (digitValue? c).bind fun d => readDigits d cs

/-- An integer with an optional sign and blank margins. -/
def readInt? (cs : List Char) : Option Int :=
  match stripChars cs with
  | '+' :: ds => (readNat? ds).map Int.ofNat
  | '-' :: ds => (readNat? ds).map fun n => -Int.ofNat n
  | ds => (readNat? ds).map Int.ofNat

/-- A natural number in ASCII digits. -/
def natText (n : Nat) : String := String.ofList (Nat.toDigits 10 n)

def intText (n : Int) : String :=
  if n < 0 then "-" ++ natText n.natAbs else natText n.natAbs

end SchemaDesk.Text
