import SchemaDesk.ColumnType.Spelling
import SchemaDesk.Definition.Reference
/-!
Column definitions in one form, whatever the shape of the description that they come from. Marks are
only ever set, so that no later part of a description takes back what an earlier one said.
-/

namespace SchemaDesk

/-- What is said about the values of a column. -/
structure ColumnMarks where
  primaryKey : Bool := false
  notNull : Bool := false
  unique : Bool := false
  autoIncrement : Bool := false
  deriving DecidableEq, Repr

namespace ColumnMarks

/-- A key is never null and always unique. -/
def key : ColumnMarks := { primaryKey := true, notNull := true, unique := true }

def join (a b : ColumnMarks) : ColumnMarks :=
  { primaryKey := a.primaryKey || b.primaryKey
    notNull := a.notNull || b.notNull
    unique := a.unique || b.unique
    autoIncrement := a.autoIncrement || b.autoIncrement }

def joinAll (ms : List ColumnMarks) : ColumnMarks := ms.foldl join {}

end ColumnMarks

/-- The numbers that belong to a type. -/
structure TypeNumbers where
  length : Option Int := none
  precision : Option Int := none
  scale : Option Int := none
  dimension : Option Int := none
  deriving DecidableEq, Repr

structure ColumnDefinition where
  name : String
  /-- The type in normal spelling. -/
  typeName : String
  marks : ColumnMarks := {}
  numbers : TypeNumbers := {}
  default : Option String := none
  check : Option String := none
  reference : Option ColumnReference := none
  /-- The fields that no rule explains, with the last check. -/
  extra : List (String × Value) := []

namespace ColumnDefinition

def knownFields : List String :=
  ["column", "definition", "resource", "nullable", "not_null", "unique", "primary_key",
    "auto_increment", "default_val", "constraint", "references", "reference_definition"]

/-- A field of the description, or of its `definition`. -/
def field (v : Value) (name : String) : Value :=
  Value.firstOf [v.get name, (v.get "definition").get name]

/-- A field of the `definition`, or of the description. -/
def innerField (v : Value) (name : String) : Value :=
  Value.firstOf [(v.get "definition").get name, v.get name]

/-- The type as it was written; empty when there is none. -/
def writtenType (v : Value) : String :=
  let d := v.get "definition"
  match Value.firstOf [d.get "dataType", d.get "data_type", v.get "dataType", v.get "data_type"] with
  | .null => ""
  | t => t.display

/-- The numbers among the values; the others are left out. -/
def numbersOf : List Value → Except Failure (List Int)
  | [] => .ok []
  | v :: vs =>
    match v.toInt? with
    | .error e => .error e
    | .ok n => (numbersOf vs).map fun ns => n.toList ++ ns

/-- The numbers of the field `length`, which may hold a list, and of the field `scale`. -/
def fieldNumbers (v : Value) : Except Failure (List Int) :=
  match innerField v "length" with
  | .null => .ok []
  | .list items => numbersOf items
  | w =>
    match w.toInt? with
    | .error e => .error e
    | .ok none => .ok []
    | .ok (some n) => ((innerField v "scale").toInt?).map fun s => n :: s.toList

/-- What stands between the first opening parenthesis and the next closing one. -/
def parenthesised? (cs : List Char) : Option (List Char) :=
  match cs.dropWhile (· != '(') with
  | [] => none
  | _ :: rest => if rest.contains ')' then some (rest.takeWhile (· != ')')) else none

/-- The numbers that are written behind the type. -/
def suffixNumbers (v : Value) : Except Failure (List Int) :=
  match parenthesised? (writtenType v).toList with
  | none => .ok []
  | some cs => numbersOf ((cs.splitOnP (· == ',')).map fun part => .text (String.ofList part))

/-- The numbers of the type: of fields if there are any, else those written with the type. -/
def writtenNumbers (v : Value) : Except Failure (List Int) :=
  match fieldNumbers v with
  | .ok [] => suffixNumbers v
  | result => result

/-- Two numbers are precision and scale, and what a single one means depends on the type. -/
def typeNumbers (typeName : String) : List Int → TypeNumbers
  | [] => {}
  | [n] =>
    let t := ColumnType.ofSpelling typeName
    if t.isDecimal then { precision := some n }
    else if t.isVector then { dimension := some n }
    else { length := some n }
  | n :: m :: _ => { precision := some n, scale := some m }

def nullableMarks (v : Value) : ColumnMarks :=
  let wording := match field v "nullable" with
    | .bool false => "not null"
    | .text s => Text.lower s
    | .record fields =>
      let r := Value.record fields
      Text.lower (((r.get "type").orElse (r.get "value")).orElse (.text "")).display
    | _ => ""
  { notNull := Text.hasWord wording "not null" }

def uniqueMarks (v : Value) : ColumnMarks :=
  match field v "unique" with
  | .bool b => { unique := b }
  | .text s =>
    let s := Text.lower (Text.strip s)
    { unique := s == "unique" || s == "unique key" }
  | _ => {}

/-- The field counts as set in the description or in its `definition`. -/
def isSet (v : Value) (name : String) : Bool :=
  (v.get name).truthy || ((v.get "definition").get name).truthy

/-- The kind of a constraint that stands with a column, in upper case. -/
def constraintTag (entry : Value) : String :=
  match entry with
  | .record _ =>
    Text.upper (((entry.get "type").orElse (entry.get "constraint_type")).orElse (.text "")).display
  | .null => ""
  | v => Text.upper v.display

def constraintMarks (entry : Value) : ColumnMarks :=
  let tag := constraintTag entry
  ColumnMarks.join (if Text.hasWord tag "PRIMARY" then .key else {})
    { notNull := Text.hasWord tag "NOT NULL"
      unique := Text.hasWord tag "UNIQUE"
      autoIncrement := Text.hasWord tag "AUTO_INCREMENT" || Text.hasWord tag "AUTOINCREMENT" }

def constraints (v : Value) : List Value := (field v "constraint").asList

def isCheck (entry : Value) : Bool :=
  entry.isRecord && Text.hasWord (constraintTag entry) "CHECK" && entry.has "definition"

def constraintReference? (entry : Value) : Option ColumnReference :=
  if entry.isRecord &&
      (Text.hasWord (constraintTag entry) "REFERENCES" || (entry.get "reference").truthy) then
    ColumnReference.ofValue? ((entry.get "reference").orElse entry)
  else none

/-- All that the description says about the values of the column. A serial type counts up and is
never null. -/
def marksOf (v : Value) (typeName : String) : ColumnMarks :=
  let serial := Text.hasWord typeName "SERIAL"
  .joinAll <|
    [{ autoIncrement := serial, notNull := serial }, nullableMarks v,
      { notNull := isSet v "not_null" }, uniqueMarks v,
      if isSet v "primary_key" then .key else {},
      { autoIncrement := isSet v "auto_increment" }] ++
    (constraints v).map constraintMarks

def defaultOf (v : Value) : Option String :=
  match field v "default_val" with
  | .null => none
  | d => d.defaultText?

/-- The last reference counts: those of the constraints first, then the fields of the description. -/
def referenceOf (v : Value) : Option ColumnReference :=
  ((constraints v).filterMap constraintReference? ++
    [v.get "references", v.get "reference_definition"].filterMap ColumnReference.ofValue?).getLast?

def lastCheck? (v : Value) : Option Value := ((constraints v).filter isCheck).getLast?

def extraOf (v : Value) : List (String × Value) :=
  let check := (lastCheck? v).toList.map fun entry => ("check", entry)
  (otherFields knownFields v).foldl (fun fields f => setField f.1 f.2 fields) check

/-- The definition in a description; `none` if it has no name or no type. -/
def ofValue? (v : Value) : Except Failure (Option ColumnDefinition) :=
  if !v.isRecord then .ok none
  else
    match (v.get "column").nameText? with
    | none => .ok none
    | some name =>
      let typeName := ColumnType.normalSpelling (writtenType v)
      if typeName == "" then .ok none
      else
        (writtenNumbers v).map fun ns => some
          { name, typeName
            marks := marksOf v typeName
            numbers := typeNumbers typeName ns
            default := defaultOf v
            check := (lastCheck? v).map fun entry => checkText (entry.get "definition")
            reference := referenceOf v
            extra := extraOf v }

end ColumnDefinition

end SchemaDesk
