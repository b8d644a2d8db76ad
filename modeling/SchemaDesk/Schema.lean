import SchemaDesk.ColumnType
/-!
Schemas: tables with their columns, and the relations between columns. All parts are known by their
identifiers, names are for people and for the database.
-/

namespace SchemaDesk

/-- Identifiers are given from outside, or are made here and numbered in the order in which they are
made. -/
inductive Id
  | named (text : String)
  | fresh (serial : Nat)
  deriving DecidableEq, Repr

structure Column where
  id : Id
  name : String
  type : ColumnType := .varchar
  primaryKey : Bool := false
  nullable : Bool := true
  unique : Bool := false
  /-- The default as it stands in a statement. -/
  default : Option String := none
  length : Option Int := none
  precision : Option Int := none
  scale : Option Int := none
  dimension : Option Int := none
  deriving DecidableEq, Repr

/-- A coordinate on the canvas; whole numbers stay whole. -/
inductive Coordinate
  | whole (n : Int)
  | real (x : Binary64)
  deriving DecidableEq, Repr

structure Position where
  x : Coordinate
  y : Coordinate
  deriving DecidableEq, Repr

def defaultColor : String := "#3b82f6"

structure Table where
  id : Id
  name : String
  color : String := defaultColor
  columns : List Column := []
  position : Option Position := none
  /-- The group on the canvas to which the table belongs. -/
  parentNode : Option String := none
  deriving DecidableEq, Repr

/-- How many rows of one side belong to a row of the other. -/
inductive RelationKind
  | oneToOne
  | oneToMany
  | manyToMany
  deriving DecidableEq, Repr

namespace RelationKind

def name : RelationKind → String
  | oneToOne => "1:1"
  | oneToMany => "1:N"
  | manyToMany => "N:M"

def ofName? (s : String) : Option RelationKind :=
  [oneToOne, oneToMany, manyToMany].find? fun k => k.name == s

def ofValue (v : Value) : Except Failure RelationKind :=
  match v with
  | .text s =>
    match ofName? s with
    | some k => .ok k
    | none => .error (.invalidRelationType v)
  | _ => .error (.invalidRelationType v)

end RelationKind

/-- What happens to the rows that refer to a row which is deleted or updated. -/
inductive ReferentialAction
  | cascade
  | setNull
  | restrict
  | noAction
  deriving DecidableEq, Repr

namespace ReferentialAction

def all : List ReferentialAction := [cascade, setNull, restrict, noAction]

def name : ReferentialAction → String
  | cascade => "CASCADE"
  | setNull => "SET NULL"
  | restrict => "RESTRICT"
  | noAction => "NO ACTION"

/-- The action of a name; letter case and blanks do not matter, and every unknown name means
`NO ACTION`. -/
def ofText (s : String) : ReferentialAction :=
  let s := Text.collapse (Text.upper s)
  (all.find? fun a => a.name == s).getD noAction

end ReferentialAction

/-- A relation goes from the referring column to the one that it refers to. Its actions are written
as they stand, and one that is absent or empty is not written. -/
structure Relation where
  id : Id
  sourceTableId : Id
  sourceColumnId : Id
  targetTableId : Id
  targetColumnId : Id
  type : RelationKind := .oneToMany
  onDelete : Option String := some ReferentialAction.noAction.name
  onUpdate : Option String := some ReferentialAction.noAction.name
  name : Option String := none
  deriving DecidableEq, Repr

structure Schema where
  tables : List Table := []
  relations : List Relation := []
  deriving DecidableEq, Repr

namespace Table

/-- The first column of that name, whatever the letter case. -/
def findColumn? (t : Table) (name : String) : Option Column :=
  t.columns.find? fun c => Text.sameName c.name name

def column? (t : Table) (id : Id) : Option Column := t.columns.find? fun c => c.id == id

end Table

namespace Schema

def table? (s : Schema) (id : Id) : Option Table := s.tables.find? fun t => t.id == id

end Schema

end SchemaDesk
