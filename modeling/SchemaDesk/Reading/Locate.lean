import SchemaDesk.Failure
import SchemaDesk.Text.Caseless
/-!
Where a reported error stands. A report may tell its place in several ways; what it does not tell is
looked for in its message. An error as it is raised may carry a location that has a start, and each of
the two may keep its parts as the fields of a record or as the attributes of an object.
-/

namespace SchemaDesk

/-- What is known of an error. Parts that are not known are `null`. -/
structure ErrorReport where
  text : String
  message : Value := .null
  line : Value := .null
  column : Value := .null
  /-- The start of the place where the error is. -/
  start : Value := .null

namespace ErrorReport

/-- A positive number, also by its digits; zero for everything else. -/
def position (v : Value) : Except Failure Nat :=
  match v with
  | .int n => .ok n.toNat
  | .text s =>
    if Text.allDigits s.toList then
      match Text.readNat? s.toList with
      | some n => .ok n
      | none => .error (.invalidNumeral s)
    else .ok 0
  | _ => .ok 0

/-- The number behind a word, with blanks and a colon between them. -/
def numberAfter? (word : String) (cs : List Char) : Option Nat := do
  let rest := Text.dropBlanks (← Text.dropCaseless? word.toList cs)
  let rest := match rest with
    | ':' :: rest => Text.dropBlanks rest
    | rest => rest
  Text.readNat? (rest.takeWhile Text.isDecimal)

def lineIn? (message : String) : Option Nat := Text.firstMatch (numberAfter? "line") message.toList

def columnIn? (message : String) : Option Nat :=
  Text.firstMatch (fun cs => (numberAfter? "column" cs).or (numberAfter? "col" cs)) message.toList

def positionOr (n : Nat) (v : Value) : Except Failure Nat :=
  if n == 0 then position v else .ok n

/-- Where the error is: at the start that it names, at its line and column, or where its message says
that it is; line and column are found on their own, and the first of each is meant if nothing is
said. -/
def locate (e : ErrorReport) : Except Failure (Nat × Nat) := do
  let startLine ← position (e.start.get "line")
  let startColumn ← position (e.start.get "column")
  let line ← positionOr startLine e.line
  let column ← positionOr startColumn e.column
  let message := (e.message.orElse (.text e.text)).display
  let line := if line == 0 then (lineIn? message).getD 0 else line
  let column := if column == 0 then (columnIn? message).getD 0 else column
  return (if line == 0 then 1 else line, if column == 0 then 1 else column)

end ErrorReport

/-- Named parts, kept as the fields of a record or as the attributes of an object. -/
inductive Holder (α : Type)
  | record (fields : List (String × α))
  | object (attributes : List (String × α))

namespace Holder

def field? : Holder α → String → Option α
  | record fields, name => fields.lookup name
  | object _, _ => none

def attribute? : Holder α → String → Option α
  | record _, _ => none
  | object attributes, name => attributes.lookup name

end Holder

/-- An error with what it carries on its place. Parts that it lacks are `null`; a location or a start
that has no parts of its own is `none`. -/
structure RaisedError where
  text : String
  message : Value := .null
  line : Value := .null
  column : Value := .null
  location : Option (Holder (Option (Holder Value))) := none

namespace RaisedError

/-- The start of the location: an attribute, or else a field. -/
def start? (e : RaisedError) : Option (Holder Value) :=
  e.location.bind fun l => ((l.attribute? "start").join).or ((l.field? "start").join)

/-- A part of the start, a field or an attribute. -/
def startPart (e : RaisedError) (name : String) : Value :=
  (e.start?.bind fun s => (s.field? name).or (s.attribute? name)).getD .null

/-- What is known of the error, wherever it was kept. -/
def report (e : RaisedError) : ErrorReport :=
  { text := e.text
    message := e.message
    line := e.line
    column := e.column
    start := .record [("line", e.startPart "line"), ("column", e.startPart "column")] }

def locate (e : RaisedError) : Except Failure (Nat × Nat) := e.report.locate

end RaisedError

end SchemaDesk
