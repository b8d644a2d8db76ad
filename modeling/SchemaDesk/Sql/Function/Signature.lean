import SchemaDesk.Sql.Kind
import SchemaDesk.Sql.Operator
import SchemaDesk.Text.Case
/-!
How functions are known: by which names, of what kind they are, and how many arguments they take. A
call is built from its arguments in the form that the dialect prefers.
-/

namespace SchemaDesk.Sql.Function

/-- A function that is written by its first name, whatever name it is called by. -/
structure Signature where
  kind : String
  names : List String
  /-- How many arguments it takes at most, if that is limited. -/
  most : Option Nat
  /-- The place of the main argument, if there is one. -/
  main : Option Nat := some 0
  /-- The place of a unit of time, which is written as a word in capital letters. -/
  unit : Option Nat := none

/-- What becomes of the arguments of a call. -/
abbrev Builder := List Expr → Except SyntaxCause Expr

/-- The parts of a call: the name, and the arguments between commas. -/
def callParts (name : String) (es : List Expr) : List Part :=
  .text (name ++ "(") :: Part.list es ++ [.text ")"]

/-- A function of a kind, with its main argument and what is written for it. -/
def ofParts (kind : String) (main : Option Expr) (written : List Part) : Expr :=
  .known kind (main.bind Expr.heart?) written

/-- A function of a kind by a name. -/
def named (kind name : String) (main : Option Expr) (es : List Expr) : Expr :=
  ofParts kind main (callParts name es)

/-- A function without arguments, as it is written. -/
def bare (kind written : String) : Expr := .known kind none [.text written]

/-- A built call, unless it has more arguments than the function can have. -/
def atMost (most : Nat) (es : List Expr) (e : Expr) : Except SyntaxCause Expr :=
  if most < es.length then .error (.tooManyArguments es.length most) else .ok e

/-- The short names of units of time. -/
def shortUnits : List (String × String) := [
  ("D", "DAY"), ("H", "HOUR"), ("M", "MINUTE"), ("MS", "MILLISECOND"), ("NS", "NANOSECOND"),
  ("Q", "QUARTER"), ("S", "SECOND"), ("US", "MICROSECOND"), ("W", "WEEK"), ("Y", "YEAR")]

def longUnit (unit : String) : String := (shortUnits.lookup unit).getD unit

/-- The text of a column, a word or a literal, as far as it is one. -/
def unitName? (e : Expr) : Option String :=
  match e.bare with
  | .column [] last => some last.plainName
  | .number s | .text s | .word s => some s
  | _ => none

/-- A unit of time as a word. -/
def unitWord (e : Expr) : Expr :=
  match unitName? e with
  | some s => .word (Text.upper (longUnit s))
  | none => e

namespace Signature

/-- The arguments of a call as they are written. -/
def arguments (s : Signature) (es : List Expr) : List Expr :=
  match s.unit with
  | none => es
  | some i => es.mapIdx fun j e => if i == j then unitWord e else e

def build (s : Signature) (name : String) : Builder := fun es =>
  let e := named s.kind (s.names.headD name) (s.main.bind (es[·]?)) (s.arguments es)
  match s.most with
  | none => .ok e
  | some most => atMost most es e

/-- A function with a limited count of arguments, the first of which is the main one. -/
def fixed (kind : String) (names : List String) (most : Nat) : Signature :=
  { kind, names, most := some most }

/-- A function with any count of arguments, the first of which is the main one. -/
def variadic (kind : String) (names : List String) : Signature := { kind, names, most := none }

/-- A function that has no main argument. -/
def scattered (kind : String) (names : List String) (most : Option Nat) : Signature :=
  { kind, names, most, main := none }

/-- A function of times whose argument at some place is a unit. -/
def timed (kind : String) (names : List String) (most unit : Nat) : Signature :=
  { kind, names, most := some most, unit := some unit }

end Signature

/-- Words and values of a choice by conditions. -/
def caseParts (subject : Option Expr) (branches : List (Expr × Expr)) (otherwise : Option Expr) :
    List Part :=
  let behind (word : String) (e : Option Expr) : List Part :=
    match e with
    | some e => [.text word, .value e]
    | none => []
  .text "CASE" :: behind " " subject ++
    branches.flatMap (fun (c, v) => [.text " WHEN ", .value c, .text " THEN ", .value v]) ++
    behind " ELSE " otherwise ++ [.text " END"]

/-- A choice between two values. Only SQLite has a function for it. -/
def choice (d : Dialect) (c v : Expr) (w : Option Expr) : Expr :=
  match d with
  | .sqlite => named "if" "IIF" (some c) (c :: v :: w.toList)
  | _ => ofParts "if" (some c) (caseParts none [(c, v)] w)

/-- A cast to a type without parameters. -/
def castTo (type : String) (e : Expr) : Expr := .cast "cast" e (.named type [])

end SchemaDesk.Sql.Function
