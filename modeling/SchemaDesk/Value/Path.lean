import SchemaDesk.Failure
import SchemaDesk.Value
/-!
Paths into structured values, and the first of several paths that leads to a value.
-/

namespace SchemaDesk

/-- One step of a path: into a field of a record, or to an item of a list. A negative position counts
from the end. -/
inductive Step
  | field (name : String)
  | item (position : Int)
  deriving DecidableEq, Repr

namespace Value

/-- The item at a position. A position behind the end reads as `null`, one before the start fails. -/
def itemAt (items : List Value) (position : Int) : Except Failure Value :=
  if (items.length : Int) ≤ position then .ok null
  else
    let index := if position < 0 then position + items.length else position
    if index < 0 then .error .indexOutOfRange else .ok (items.getD index.toNat null)

def step (v : Value) : Step → Except Failure Value
  | .field name => .ok (v.get name)
  | .item position =>
    match v with
    | list items => itemAt items position
    | _ => .ok null

/-- Follows a path; `null` anywhere on the way is the answer. -/
def follow (v : Value) : List Step → Except Failure Value
  | [] => .ok v
  | s :: path =>
    match v.step s with
    | .error e => .error e
    | .ok null => .ok null
    | .ok w => w.follow path

/-- The value at the first path that leads to one. -/
def firstPresent (v : Value) : List (List Step) → Except Failure Value
  | [] => .ok null
  | path :: paths =>
    match v.follow path with
    | .error e => .error e
    | .ok null => v.firstPresent paths
    | .ok w => .ok w

end Value

end SchemaDesk
