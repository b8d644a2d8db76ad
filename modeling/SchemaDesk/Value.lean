import SchemaDesk.Number.Binary64
/-!
Structured values: the form in which parsed statements are described. A record is a list of fields
with distinct names, in the order in which they were written.
-/

namespace SchemaDesk

inductive Value
  | null
  | bool (b : Bool)
  | int (n : Int)
  | real (x : Binary64)
  | text (s : String)
  | list (items : List Value)
  | record (fields : List (String × Value))

namespace Value

instance : Inhabited Value := ⟨null⟩

def isNull : Value → Bool
  | null => true
  | _ => false

def isText : Value → Bool
  | text _ => true
  | _ => false

def isRecord : Value → Bool
  | record _ => true
  | _ => false

/-- Neither absent, false, zero nor empty. -/
def truthy : Value → Bool
  | null => false
  | bool b => b
  | int n => n != 0
  | real x => !x.isZero
  | text s => s != ""
  | list items => !items.isEmpty
  | record fields => !fields.isEmpty

/-- The first value unless it counts as absent, else the second. -/
def orElse (v w : Value) : Value := if v.truthy then v else w

/-- The field of that name; a missing field reads as `null`, as does any field of a value that is no
record. -/
def get (v : Value) (name : String) : Value :=
  match v with
  | record fields => (fields.lookup name).getD null
  | _ => null

/-- The value as a list: none for `null`, and one item for a value that is no list. -/
def asList : Value → List Value
  | null => []
  | list items => items
  | v => [v]

/-- The first item of a list, `null` if it is empty; other values stand for themselves. -/
def firstItem : Value → Value
  | list items => items.headD null
  | v => v

/-- The first value of a list that is not `null`. -/
def firstOf : List Value → Value
  | [] => null
  | v :: vs => if v.isNull then firstOf vs else v

/-- The field is present in a record and not `null`. -/
def has (v : Value) (name : String) : Bool := !(v.get name).isNull

end Value

end SchemaDesk
