import SchemaDesk.Sql.Grammar.Nested
import SchemaDesk.Sql.Render
/-!
Orders of rows: the keys behind `ORDER BY`, and how many rows are taken behind `LIMIT`.
-/

namespace SchemaDesk.Sql.Grammar

open Reader

/-- A missing part of an expression. -/
def required (r : Reader (Option α)) : Reader α := do
  match ← r with
  | some a => return a
  | none => fault .missingOperand

/-- Where rows without a value stand among the others. -/
inductive NullPlace
  | first
  | last
  deriving DecidableEq, Repr

/-- Rows without a value come last in PostgreSQL, and first in the other dialects; a descending order
turns that round. -/
def NullPlace.usual (d : Dialect) (descending : Bool) : NullPlace :=
  if (d == .postgresql) == descending then .first else .last

/-- What is written behind a key for the place of rows without a value, if it is not the usual one. -/
def NullPlace.text : NullPlace → String
  | .first => " NULLS FIRST"
  | .last => " NULLS LAST"

/-- A key of an order. MySQL puts another key in front of it where rows without a value have an
unusual place; `simulated` allows that. -/
def orderKey (d : Dialect) (simulated : Bool) (e : Expr) (direction : Option Bool)
    (place : Option NullPlace) : Expr :=
  let words := match direction with
    | some true => " DESC"
    | some false => " ASC"
    | none => ""
  let usual := NullPlace.usual d (direction == some true)
  let place := place.getD usual
  let written : List Part :=
    if place == usual then [.value e, .text words]
    else if d == .mysql then
      let isPlace : Bool := match e.bare with
        | .number s => Text.allDigits s.toList
        | .known kind _ _ => kind == "rand"
        | _ => false
      if isPlace || !simulated then [.value e, .text words]
      else
        [.text "CASE WHEN ", .value e, .text " IS NULL THEN 1 ELSE 0 END",
          .text (if place == .first then " DESC, " else ", "), .value e, .text words]
    else [.value e, .text (words ++ place.text)]
  .phrase "ordered" e.heart? written

/-- A key with its direction and the place of rows without a value. -/
def ordered (d : Dialect) (n : Nested) (simulated : Bool) : Reader (Option Expr) := do
  match ← n.condition with
  | none => return none
  | some e =>
    let ascending ← keyword "ASC"
    let descending ← keyword "DESC"
    let first ← words ["NULLS", "FIRST"]
    let last ← words ["NULLS", "LAST"]
    let direction := if descending then some true else if ascending then some false else none
    let place := if first then some .first else if last then some .last else none
    some <$> noted (orderKey d simulated e direction place)

/-- The keys behind `ORDER BY`, and the comments of these words. -/
def orderKeys (d : Dialect) (n : Nested) (simulated : Bool) :
    Reader (Option (List String × List Expr)) := do
  if !(← keyword "ORDER BY") then return none
  let comments ← waiting
  return some (comments, ← values (ordered d n simulated))

/-- A value with the order in which its rows are taken, if one is given. -/
def inOrder (d : Dialect) (n : Nested) (e : Expr) : Reader Expr := do
  match ← orderKeys d n true with
  | some (comments, keys) => notedBy comments (.sorted e keys)
  | none => return e

/-- An order as a clause of its own. -/
def orderClause (d : Dialect) (n : Nested) (simulated : Bool) : Reader (Option Expr) := do
  match ← orderKeys d n simulated with
  | some (comments, keys) =>
    some <$> notedBy comments (.clause "order" (.text " ORDER BY " :: Part.list keys))
  | none => return none

/-- How many rows are taken, and how many are left out before them. -/
structure RowLimit where
  clause : Expr
  offset : Option Expr := none

/-- A count of rows behind `LIMIT`, or one to be left out and one to be taken. -/
def rowLimit (n : Nested) : Reader (Option RowLimit) := do
  if !(← keyword "LIMIT") then return none
  let comments ← waiting
  let first ← required n.term
  let second ← (do if ← mark "," then n.term else return none)
  let clause ← notedBy comments
    (.phrase "limit" none [.text " LIMIT ", .value (second.getD first)])
  return some {
    clause
    offset := second.map fun _ => .phrase "offset" none [.text " OFFSET ", .value first] }

/-- A count of rows to be left out. -/
def rowOffset (n : Nested) : Reader (Option Expr) := do
  if !(← keyword "OFFSET") then return none
  let count ← required n.term
  let _ ← oneOf ["ROW", "ROWS"]
  some <$> noted (.phrase "offset" none [.text " OFFSET ", .value count])

/-- The word for a limit or an offset starts one here, and is no name. -/
def startsLimit (n : Nested) : Reader Bool := do
  if !(← nextIs fun t => t.isKeyword "LIMIT" || t.isKeyword "OFFSET") then return false
  let start ← get
  let limit ← attempt (rowLimit n)
  let found ← (do if limit.isSome then return true else return (← attempt (rowOffset n)).isSome)
  backTo start
  return found

end SchemaDesk.Sql.Grammar
