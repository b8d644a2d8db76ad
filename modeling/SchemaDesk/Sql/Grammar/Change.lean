import SchemaDesk.Sql.Grammar.Definition
import SchemaDesk.Sql.Kind
/-!
Statements on the rows of tables: changes of rows, queries, and expressions in the place of a query,
with named statements in front of them. Of a change only its kind is kept.
-/

namespace SchemaDesk.Sql.Grammar

open Reader

/-- A change of rows. -/
def change (kind : String) : Expr := .clause kind []

/-- Rows that are added to a table, behind the word `INSERT`. -/
def insertion (s : Setting) : Reader Expr := do
  let _ ← keyword "OVERWRITE"
  let _ ← keyword "IGNORE"
  if ← keyword "OR" then
    let _ ← oneOf ["ABORT", "FAIL", "IGNORE", "REPLACE", "ROLLBACK"]
  let _ ← keyword "INTO"
  let _ ← keyword "TABLE"
  let _ ← tableWithColumns s.columns
  if ← nextIsKeyword "ALIAS" then
    let _ ← tableAlias s.dialect s.inner
  let _ ← words ["DEFAULT", "VALUES"]
  let _ ← definingQuery s
  if ← words ["ON", "CONFLICT"] then
    if ← mark "(" then
      let _ ← items s.inner.condition
      expectMark ")"
    if ← words ["DO", "NOTHING"] then pure ()
    else if ← words ["DO", "UPDATE", "SET"] then
      let _ ← items s.inner.equality
  else if ← words ["ON", "DUPLICATE", "KEY", "UPDATE"] then
    let _ ← items s.inner.equality
  if ← keyword "RETURNING" then
    let _ ← items (named s.dialect s.inner)
  return change "insert"

/-- A clause of a change of rows. -/
def changeClause (s : Setting) : Reader (Option Unit) := do
  if ← keyword "SET" then
    let _ ← items s.inner.equality
    return some ()
  if ← keyword "RETURNING" then
    let _ ← items (named s.dialect s.inner)
    return some ()
  if ← keyword "FROM" then
    let _ ← sources s.dialect s.inner
    return some ()
  if ← keyword "USING" then
    let _ ← sources s.dialect s.inner
    return some ()
  return if (← clause s.dialect s.inner).isEmpty then none else some ()

/-- Rows that are changed, behind the word `UPDATE`. -/
def update (s : Setting) : Reader Expr := do
  let _ ← sources s.dialect s.inner
  let _ ← many (changeClause s)
  return change "update"

/-- Rows that are deleted, behind the word `DELETE`. -/
def deletion (s : Setting) : Reader Expr := do
  if !(← nextIsKeyword "FROM") then
    let _ ← sources s.dialect s.inner
  let _ ← many (changeClause s)
  return change "delete"

/-- A change of rows, if a word for one stands here. -/
def rowChange (s : Setting) : Reader (Option Expr) := do
  if ← keyword "INSERT" then return some (← insertion s)
  if ← keyword "UPDATE" then return some (← update s)
  if ← keyword "DELETE" then return some (← deletion s)
  if ← keyword "MERGE" then
    let _ ← many (takeIf fun _ => true)
    return some (change "merge")
  return none

/-- Rows, to which other rows may be joined. -/
def isRows (e : Expr) : Bool :=
  e.isQuery || match e.bare with
    | .subquery _ => true
    | _ => false

/-- A query, or an expression in its place. -/
def looseQuery (s : Setting) : Reader (Option Expr) := do
  match ← orElse (named s.dialect s.inner) s.inner.query with
  | none => return none
  | some e =>
    let whole ← combined s.dialect s.inner e
    if isRows whole then
      let _ ← modifiers s.dialect s.inner
    return some whole

/-- A statement on rows, with the named statements in front of it. -/
def rowStatement (s : Setting) : Nat → Reader (Option Expr)
  | 0 => fault .tooDeep
  | fuel + 1 => do
    if ← keyword "WITH" then
      let names ← namedQueries s.dialect s.inner (required (rowStatement s fuel))
      match ← rowStatement s fuel with
      | none => fault .nothingBehindNames
      | some e =>
        if !isRows e then fault (.namesNotAllowed e.kind)
        return some (withNamed names e)
    else orElse (rowChange s) (looseQuery s)

end SchemaDesk.Sql.Grammar
