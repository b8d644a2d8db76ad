import SchemaDesk.Naming
import SchemaDesk.Text.Find
import SchemaDesk.Value.Path
/-!
Checks of the values in a request. A check gives what a value stands for, or all errors that are in
it with their places. Numbers and truth values may also be given by their texts.
-/

namespace SchemaDesk.Service

/-- A value that does not fit in its place. -/
structure FieldError where
  place : List Step
  kind : String
  deriving DecidableEq, Repr

/-- What a value stands for, or the errors in it. -/
inductive Checked (α : Type)
  | valid (a : α)
  | invalid (errors : List FieldError)

namespace Checked

def map (f : α → β) : Checked α → Checked β
  | valid a => valid (f a)
  | invalid errors => invalid errors

/-- Both parts are checked, and the errors of both are kept. -/
def apply (f : Checked (α → β)) (a : Checked α) : Checked β :=
  match f, a with
  | valid f, valid a => valid (f a)
  | valid _, invalid errors => invalid errors
  | invalid errors, valid _ => invalid errors
  | invalid errors, invalid more => invalid (errors ++ more)

instance : Applicative Checked where
  pure := valid
  seq f a := apply f (a ())

/-- The errors are those of a part at the given place. -/
def within (s : Step) : Checked α → Checked α
  | valid a => valid a
  | invalid errors => invalid (errors.map fun e => { e with place := s :: e.place })

def error (kind : String) : Checked α := invalid [⟨[], kind⟩]

end Checked

abbrev Check (α : Type) := Value → Checked α

namespace Check

def text : Check String
  | .text s => .valid s
  | _ => .error "string_type"

/-- The value may be `null`. -/
def optional (c : Check α) : Check (Option α)
  | .null => .valid none
  | v => (c v).map some

def isNumeralChar (c : Char) : Bool := c.isDigit || c == '_' || c == '+' || c == '-'

/-- A text for an integer: ASCII digits with an optional sign, and a fraction of zeros at most. -/
def wholeOfText? (s : String) : Option Int :=
  let cs := Text.stripChars s.toList
  let whole := cs.takeWhile (· != '.')
  let fraction := (cs.drop whole.length).drop 1
  if fraction.all (· == '0') && whole.all isNumeralChar then Text.readInt? whole else none

/-- Floating-point numbers from here on stand for no integer. -/
def wholeBound : Int := 0x8000000000000000

/-- The integer that a floating-point number stands for, or why it stands for none. -/
def wholeOfReal (x : Binary64) : Except String Int :=
  match x, x.toInt? with
  | .infinite _, _ => .error "finite_number"
  | _, none => .error "int_from_float"
  | _, some n => if -wholeBound < n && n < wholeBound then .ok n else .error "int_parsing_size"

def whole : Check Int
  | .int n => .valid n
  | .bool b => .valid (if b then 1 else 0)
  | .real x =>
    match wholeOfReal x with
    | .ok n => .valid n
    | .error kind => .error kind
  | .text s =>
    match wholeOfText? s with
    | some n => .valid n
    | none => .error "int_parsing"
  | _ => .error "int_type"

def trueTexts : List String := ["1", "on", "t", "true", "y", "yes"]

def falseTexts : List String := ["0", "off", "f", "false", "n", "no"]

def truthOfText? (s : String) : Option Bool :=
  let s := Text.lower s
  if trueTexts.contains s then some true
  else if falseTexts.contains s then some false
  else none

def truthOfWhole (n : Int) : Checked Bool :=
  if n == 1 then .valid true else if n == 0 then .valid false else .error "bool_parsing"

def truth : Check Bool
  | .bool b => .valid b
  | .int n => truthOfWhole n
  | .real x =>
    match wholeOfReal x with
    | .ok n => truthOfWhole n
    | .error _ => .error "bool_type"
  | .text s =>
    match truthOfText? s with
    | some b => .valid b
    | none => .error "bool_parsing"
  | _ => .error "bool_type"

/-- The exponent of a number behind its `e`. -/
def exponentOf? : List Char → Option Int
  | [] => some 0
  | e :: cs =>
    if (e == 'e' || e == 'E') && cs.all isNumeralChar then Text.readInt? cs else none

/-- A text without the single underscores between its characters. -/
def withoutUnderscores (cs : List Char) : List Char :=
  if cs.head? == some '_' || cs.getLast? == some '_' || Text.contains ['_', '_'] cs then cs
  else cs.filter (· != '_')

/-- A number in decimal notation. -/
def realOfText? (s : String) : Option Binary64 := do
  let cs := withoutUnderscores (Text.stripChars s.toList)
  let (negative, cs) := match cs with
    | '-' :: rest => (true, rest)
    | '+' :: rest => (false, rest)
    | cs => (false, cs)
  let whole := cs.takeWhile Char.isDigit
  let rest := cs.drop whole.length
  let fraction := match rest with
    | '.' :: rest => rest.takeWhile Char.isDigit
    | _ => []
  let rest := match rest with
    | '.' :: rest => rest.drop fraction.length
    | rest => rest
  let digits ← Text.readNat? (whole ++ fraction)
  let exponent ← exponentOf? rest
  return Binary64.ofDecimal negative digits (exponent - fraction.length)

/-- An integer may be too large for a floating-point number. -/
def real : Check Binary64
  | .real x => .valid x
  | .int n =>
    match Binary64.ofInt n with
    | .infinite _ => .error "float_type"
    | x => .valid x
  | .bool b => .valid (Binary64.ofInt (if b then 1 else 0))
  | .text s =>
    match realOfText? s with
    | some x => .valid x
    | none => .error "float_parsing"
  | _ => .error "float_type"

/-- One of some values, each known by its text. -/
def choice (kind : String) (read : String → Option α) : Check α
  | .text s =>
    match read s with
    | some a => .valid a
    | none => .error kind
  | _ => .error kind

/-- The items of a list, counted from a position. -/
def items (c : Check α) (position : Nat) : List Value → Checked (List α)
  | [] => .valid []
  | v :: vs => List.cons <$> (c v).within (.item position) <*> items c (position + 1) vs

def list (c : Check α) : Check (List α)
  | .list vs => items c 0 vs
  | _ => .error "list_type"

/-- A record, whose fields are checked by `c`. -/
def record (c : List (String × Value) → Checked α) : Check α
  | .record fields => c fields
  | _ => .error "model_attributes_type"

/-- The check of a field's value, if the field is there. Its name may have its words between
underscores as well, and an error is at the name that is there. -/
def present? (name : String) (c : Check α) (fields : List (String × Value)) : Option (Checked α) :=
  [Naming.camelCase name, name].findSome? fun n =>
    (fields.lookup n).map fun v => (c v).within (.field n)

/-- A field that must be there. -/
def required (name : String) (c : Check α) (fields : List (String × Value)) : Checked α :=
  (present? name c fields).getD ((Checked.error "missing").within (.field (Naming.camelCase name)))

/-- A field that may be missing. -/
def withDefault (name : String) (c : Check α) (default : α) (fields : List (String × Value)) :
    Checked α :=
  (present? name c fields).getD (.valid default)

end Check

end SchemaDesk.Service
