import SchemaDesk.Value.Canonical
import SchemaDesk.Value.Literal
/-!
References to other tables in the definition of a column or of a constraint, and their actions.
-/

namespace SchemaDesk

/-- What a reference says on deleted and on updated rows. -/
structure Actions where
  onDelete : Option String := none
  onUpdate : Option String := none
  deriving DecidableEq, Repr

/-- The first value of the list that is there. -/
def firstSome (xs : List (Option α)) : Option α := xs.findSome? id

namespace Actions

/-- The words of an action in upper case, one space between them. -/
def wording? (v : Value) : Option String :=
  v.nameText?.map fun s => Text.collapse (Text.upper s)

/-- The wording of an entry of the list of actions, unless it has none or only blanks. -/
def entryWording? (entry : Value) : Option String :=
  (wording? (entry.get "value")).filter (· != "")

def entryEvent (entry : Value) : String :=
  Text.lower ((entry.get "type").orElse (.text "")).display

def isDelete (entry : Value) : Bool := Text.hasWord (entryEvent entry) "delete"

def isUpdate (entry : Value) : Bool :=
  !isDelete entry && Text.hasWord (entryEvent entry) "update"

/-- The wording of the last entry of the kind. -/
def lastWording? (kind : Value → Bool) (entries : List Value) : Option String :=
  ((entries.filter fun e => e.isRecord && kind e).filterMap entryWording?).getLast?

/-- The actions of a reference. The entries of the list `on_action` come first, then the fields
`on_delete` and `on_update` of the reference and of the item that holds it. -/
def ofReference (reference item : Value) : Actions :=
  let entries := (reference.get "on_action").asList
  { onDelete := firstSome [lastWording? isDelete entries,
      wording? (reference.get "on_delete"), wording? (item.get "on_delete")]
    onUpdate := firstSome [lastWording? isUpdate entries,
      wording? (reference.get "on_update"), wording? (item.get "on_update")] }

end Actions

/-- The texts of all values that have one. -/
def namesOf (v : Value) : List String :=
  v.asList.filterMap (·.nameText?)

/-- The name of the table that a reference or a statement is about. -/
def tableName? (v : Value) : Option String :=
  (v.get "table").firstItem.nameText?

/-- A text, and every other value in canonical notation. -/
def checkText (v : Value) : String :=
  match v with
  | .text s => s
  | v => v.canonical

/-- Sets a field of a record: in place if it is there, at the end if not. -/
def setField (name : String) (v : Value) (fields : List (String × Value)) : List (String × Value) :=
  if fields.any (·.1 == name) then fields.map fun f => if f.1 == name then (name, v) else f
  else fields ++ [(name, v)]

/-- The fields of a record whose names are not listed. -/
def otherFields (known : List String) (v : Value) : List (String × Value) :=
  match v with
  | .record fields => fields.filter fun f => !known.contains f.1
  | _ => []

/-- A reference that stands with a column. -/
structure ColumnReference where
  table : String
  column : String
  actions : Actions := {}
  deriving DecidableEq, Repr

namespace ColumnReference

/-- A reference needs a table and a first column. -/
def ofValue? (v : Value) : Option ColumnReference :=
  if !v.isRecord then none
  else
    match tableName? v,
        (Value.firstOf [v.get "definition", v.get "columns"]).firstItem.nameText? with
    | some table, some column => some { table, column, actions := .ofReference v .null }
    | _, _ => none

end ColumnReference

/-- A reference that stands with a constraint of a table. -/
structure TableReference where
  table : String
  columns : List String
  actions : Actions := {}
  deriving DecidableEq, Repr

namespace TableReference

/-- A reference needs a table and a column at least. -/
def ofValue? (v item : Value) : Option TableReference :=
  if !v.isRecord then none
  else
    match tableName? v, namesOf (Value.firstOf [v.get "definition", v.get "columns"]) with
    | some table, c :: cs => some { table, columns := c :: cs, actions := .ofReference v item }
    | _, _ => none

end TableReference

end SchemaDesk
