import SchemaDesk.Failure
import SchemaDesk.Sql.ActionText
import SchemaDesk.Sql.Kind
import SchemaDesk.Sql.RuleText
import SchemaDesk.Sql.SourceType
/-!
Statements as structured values, the form in which schemas are taken from them.
-/

namespace SchemaDesk.Sql

open Value (text list record)

namespace Describe

def tagged (type : String) (fields : List (String × Value)) : Value :=
  record (("type", text type) :: fields)

def columnRef (name : String) : Value := tagged "column_ref" [("column", text name)]

/-- References to the columns of a list, as far as they have a name. -/
def columnRefs (es : List Expr) : Value :=
  list ((es.filterMap Expr.heart?).map columnRef)

/-- A table by the last part of its name, unless that is empty. -/
def tableRef (t : TableName) : Value :=
  if t.name.text == "" then list [] else list [record [("table", text t.name.text)]]

def action (a : ActionText) : Value :=
  tagged ("on " ++ a.event) [("value", tagged "origin" [("value", text a.action)])]

/-- A reference, with the actions that the text of its constraint mentions. -/
def reference (r : Reference) (constraint : String) : Value :=
  record [
    ("table", tableRef r.table),
    ("definition", columnRefs r.columns),
    ("on_action", list ((ActionText.all constraint).map action))]

/-- The parameters in the first pair of parentheses of a text, and the text without them. -/
def splitParameters (cs : List Char) : Option (List Char × List Char) :=
  let front := cs.takeWhile (· != '(')
  let body := (cs.drop front.length).drop 1
  let inner := body.takeWhile (· != ')')
  if front.length == cs.length || inner.length == body.length then none
  else some (inner, Text.stripChars (front ++ body.drop (inner.length + 1)))

/-- The numbers among parameters. -/
def numbers : List (List Char) → Except Failure (List Int)
  | [] => .ok []
  | p :: ps =>
    let p := Text.stripChars p
    if Text.allDigits p then
      match Text.readNat? p with
      | some n => (numbers ps).map ((n : Int) :: ·)
      | none => .error (.invalidNumeral (String.ofList p))
    else numbers ps

/-- One length, or the first two of several. -/
def lengthField : List Int → List (String × Value)
  | [] => []
  | [n] => [("length", .int n)]
  | n :: m :: _ => [("length", list [.int n, .int m])]

/-- A type by the name that is written, with the parameters of its canonical text. -/
def dataType (d : Dialect) (t : Option TypeExpr) (written : Option String) :
    Except Failure Value :=
  match t with
  | none => .ok (record [])
  | some t => do
    let canonical := t.render d
    let (parameters, rest) := match splitParameters canonical.toList with
      | some (inner, rest) => (inner.splitOnP (· == ','), String.ofList rest)
      | none => ([], canonical)
    let ns ← numbers parameters
    let name := (written.filter (· != "")).getD rest
    return record (("dataType", text (Text.collapse (Text.upper name))) :: lengthField ns)

/-- A function whose text ends with empty parentheses, by the text in front of them. -/
def emptyCall? (e : Expr) (written : String) : Option String :=
  if e.isFunction then (Text.dropEnd? ['(', ')'] written.toList).map String.ofList else none

def default (d : Dialect) (e : Expr) : Value :=
  match e.bare with
  | .null => tagged "null" [("value", .null)]
  | .bool b => tagged "bool" [("value", .bool b)]
  | .text s => tagged "single_quote_string" [("value", text (Text.replace s "'" "''"))]
  | .number t => tagged "number" [("value", text t)]
  | .unary "neg" _ operand =>
    match operand.bare with
    | .number t => tagged "number" [("value", text ("-" ++ t))]
    | _ => tagged "expression" [("value", text (e.render d))]
  | _ =>
    let written := e.render d
    match emptyCall? e written with
    | some name =>
      tagged "function" [("name", record [("name", list [tagged "default" [("value", text name)]])])]
    | none => tagged "expression" [("value", text written)]

/-- The parts of the description of a column. -/
structure ColumnParts where
  /-- Fields of the column itself; of several with one name the last counts. -/
  fields : List (String × Value) := []
  constraints : List Value := []
  options : List Value := []

namespace ColumnParts

def setField (p : ColumnParts) (name : String) (v : Value) : ColumnParts :=
  { p with fields := p.fields.filter (·.1 != name) ++ [(name, v)] }

def addConstraint (p : ColumnParts) (v : Value) : ColumnParts :=
  { p with constraints := p.constraints ++ [v] }

/-- Adds what a rule says about the column. -/
def add (d : Dialect) (p : ColumnParts) (c : ColumnConstraint) : ColumnParts :=
  let option : ColumnParts :=
    match c.described d with
    | some (kind, written) => { p with options := p.options ++ [tagged kind [("value", text written)]] }
    | none => p
  match c.rule with
  | some .notNull => p.setField "nullable" (tagged "not null" [("value", text "not null")])
  | some .null => p.setField "nullable" (tagged "null" [("value", text "null")])
  | some .primaryKey => p.addConstraint (tagged "primary key" [])
  | some (.unique _ _) => p.addConstraint (tagged "unique" [])
  | some .autoIncrement => p.addConstraint (tagged "auto_increment" [])
  | some (.default e) => p.setField "default_val" (tagged "default" [("value", default d e)])
  | some (.check e) => p.addConstraint (tagged "check" [("definition", text (e.render d))])
  | some (.references r) =>
    p.addConstraint (tagged "references" [("reference", reference r (r.render d))])
  | _ => option

/-- A list as a field, if it has items. -/
def listField (name : String) (items : List Value) : List (String × Value) :=
  if items.isEmpty then [] else [(name, list items)]

def toFields (p : ColumnParts) : List (String × Value) :=
  p.fields ++ listField "constraint" p.constraints ++ listField "options" p.options

end ColumnParts

def column (d : Dialect) (name : String) (t : Option TypeExpr) (constraints : List ColumnConstraint)
    (written : Option String) : Except Failure Value := do
  let definition ← dataType d t written
  let parts := constraints.foldl (ColumnParts.add d) {}
  return record ([
    ("resource", text "column"),
    ("column", columnRef name),
    ("definition", definition)] ++ parts.toFields)

def constraint (name : Option String) (type : String) (fields : List (String × Value)) : Value :=
  record ([
    ("resource", text "constraint"),
    ("constraint_name", (name.map text).getD .null),
    ("constraint_type", text type)] ++ fields)

/-- A name that is not empty. -/
def nameText (i : Option Ident) : Option String := (i.map (·.text)).filter (· != "")

def tableRule (d : Dialect) (name : Option String) (r : Rule) : Value :=
  match r with
  | .keyOf columns => constraint name "primary key" [("definition", columnRefs columns)]
  | .foreignKey k =>
    constraint name "FOREIGN KEY" (("definition", columnRefs (k.columns.map Expr.name)) ::
      match k.reference with
      | some r => [("reference_definition", reference r (k.render d))]
      | none => [])
  | .unique i columns =>
    let name := match name, columns with
      | none, some _ => nameText i
      | name, _ => name
    constraint name "unique" [("definition", columnRefs (columns.getD []))]
  | .check e => constraint name "check" [("definition", text (e.render d))]
  | .index i columns =>
    constraint (name.orElse fun _ => nameText i) "index" [("definition", columnRefs columns)]
  | r => constraint name (r.described d).1 []

def tableItem (d : Dialect) (types : List (String × String)) (item : TableItem) :
    Except Failure Value :=
  match item with
  | .column name t constraints =>
    column d name.plainName t constraints (SourceType.ofColumn? types name.plainName)
  | .rule i r => .ok (tableRule d (nameText i) r)
  | .value i e => .ok (constraint (nameText i) e.kind [])

def statement (d : Dialect) (types : SourceType.Types) (s : Statement) : Except Failure Value :=
  match s with
  | .createTable t items => do
    let columns := if t.name.text == "" then [] else SourceType.ofTable types t.name.text
    let definitions ← items.mapM (tableItem d columns)
    return tagged "create" [
      ("keyword", text "table"),
      ("table", tableRef t),
      ("create_definitions", list definitions)]
  | .create kind => .ok (tagged "create" [("keyword", text kind)])
  | .alter t keys =>
    .ok (tagged "alter" [
      ("table", (t.map tableRef).getD (list [])),
      ("expr", list (keys.map fun (i, k) => record [
        ("action", text "add"),
        ("resource", text "constraint"),
        ("constraint_type", text "FOREIGN KEY"),
        ("create_definitions", tableRule d (nameText i) (.foreignKey k))]))])
  | .command _ _ => .ok (tagged "command" [])
  | .other kind => .ok (tagged kind [])

end Describe

end SchemaDesk.Sql
