import SchemaDesk.Sql.Command
import SchemaDesk.Sql.Description
import SchemaDesk.Sql.Grammar.Statement
/-!
Scripts as lists of described statements.
-/

namespace SchemaDesk

/-- A script that could not be read. The place is not known if a text or a comment has no end. -/
structure SyntaxReport where
  message : String
  place : Option Sql.Location := none
  deriving Repr

namespace SyntaxReport

/-- The first line of the message. -/
def summary (r : SyntaxReport) : String := (Text.firstLine? r.message).getD "SQL syntax error"

/-- The report on a text, a name or a comment without an end. It shows the end of the script. -/
def unclosed (script : List Char) : SyntaxReport :=
  let shown := (script.drop (script.length - 50)).dropLast
  { message := "Error tokenizing '" ++ String.ofList shown ++ "'" }

def ofFault (script : List Char) (f : Sql.SyntaxFault) : SyntaxReport :=
  if f.cause.isLocated then
    let place := Sql.Location.ofOffset script f.offset
    { message := f.cause.description ++ ". Line " ++ Text.natText place.line ++ ", Col: " ++
        Text.natText place.column ++ "."
      place := some place }
  else { message := f.cause.description }

end SyntaxReport

/-- Why a script has no description. -/
inductive ScriptFailure
  | syntaxError (report : SyntaxReport)
  /-- The script is well formed but has no meaning. -/
  | other (failure : Failure)

namespace Script

open Sql

/-- The statements of a script. -/
def statements (d : Dialect) (script : List Char) :
    Except SyntaxReport (List Statement × SourceType.Types) :=
  match Lexer.tokens? d script with
  | none => .error (.unclosed script)
  | some tokens =>
    match Grammar.script d script tokens with
    | .error f => .error (.ofFault script f)
    | .ok found => .ok (found, SourceType.all tokens)

/-- A command that should have been a statement on a table is an error. -/
def checkCommand (script : List Char) (s : Statement) : Except ScriptFailure Unit :=
  match s with
  | .command keyword rest =>
    match Command.fault? script keyword rest with
    | some (message, place) => .error (.syntaxError { message, place := some place })
    | none => .ok ()
  | _ => .ok ()

def describe (d : Dialect) (script : List Char) (types : SourceType.Types) :
    List Statement → Except ScriptFailure (List Value)
  | [] => .ok []
  | s :: ss => do
    checkCommand script s
    match Describe.statement d types s with
    | .error f => throw (.other f)
    | .ok v => return v :: (← describe d script types ss)

/-- The descriptions of the statements of a script. All statements are read before the first one is
described. -/
def read (d : Dialect) (script : String) : Except ScriptFailure (List Value) :=
  match statements d script.toList with
  | .error report => .error (.syntaxError report)
  | .ok (found, types) => describe d script.toList types found

end Script

end SchemaDesk
