import SchemaDesk.Sql.Grammar.Expression
/-!
Keys: references to other tables, foreign keys, primary keys, unique keys and indexes, with the options
behind them.
-/

namespace SchemaDesk.Sql.Grammar

open Reader

/-- The columns between parentheses, with the comments behind them. -/
structure ColumnGroup where
  columns : List Expr
  comments : List String := []

/-- A list of columns between parentheses, as far as there is one. -/
abbrev ColumnList := Reader (Option ColumnGroup)

/-- The action behind `ON` and an event. -/
def keyAction : Reader String := do
  if ← words ["NO", "ACTION"] then return "NO ACTION"
  if ← word "CASCADE" then return "CASCADE"
  if ← word "RESTRICT" then return "RESTRICT"
  if ← words ["SET", "NULL"] then return "SET NULL"
  if ← words ["SET", "DEFAULT"] then return "SET DEFAULT"
  fault .invalidKeyOption

/-- The options of keys other than actions. -/
def keyOptionWords : List (List String) := [
  ["NOT", "ENFORCED"], ["MATCH", "FULL"], ["MATCH", "PARTIAL"], ["MATCH", "SIMPLE"],
  ["INITIALLY", "DEFERRED"], ["INITIALLY", "IMMEDIATE"], ["USING", "BTREE"], ["USING", "HASH"],
  ["DEFERRABLE"], ["NORELY"], ["RELY"]]

/-- The first of several phrases that stands here. -/
def phraseOf : List (List String) → Reader (Option String)
  | [] => return none
  | ws :: rest => do
    if ← words ws then return some (" ".intercalate ws)
    phraseOf rest

/-- An option of a key, as it is written in upper case. -/
def keyOption : Reader (Option String) := do
  if ← keyword "ON" then
    let event ← anyWord
    return some ("ON " ++ event.getD "" ++ " " ++ (← keyAction))
  phraseOf keyOptionWords

/-- The options of a key. Comments in front of what is no option wait for the key as a whole, even if
they have been taken before. -/
def keyOptions : Reader (List String) := do
  let options ← many keyOption
  if !(← atEnd) then returnTo (← get)
  return options

/-- A table and the columns listed behind it. -/
def tableWithColumns (columns : ColumnList) : Reader (TableName × ColumnGroup) := do
  let t ← tableName
  return (t, (← columns).getD { columns := [] })

/-- A reference behind its word. -/
def referenceClause (columns : ColumnList) : Reader Reference := do
  let (table, group) ← tableWithColumns columns
  let options ← keyOptions
  return { table, columns := group.columns, columnComments := group.comments, options
           comments := ← takeComments }

/-- An action of a foreign key that has no reference. -/
def looseAction : Reader (Option String) := do
  if !(← keyword "ON") then return none
  match ← takeIf fun t => t.isKeyword "DELETE" || t.isKeyword "UPDATE" with
  | none => fault .expectedEvent
  | some event =>
    let front := "ON " ++ Text.upper event.text ++ " "
    if ← words ["NO", "ACTION"] then return some (front ++ "NO ACTION")
    if ← keyword "SET" then
      let t ← takeIf fun t => t.kind == .type "NULL" || t.isKeyword "DEFAULT"
      return some (front ++ "SET " ++ Text.upper ((t.map (·.text)).getD "SET"))
    let t ← next
    return some (front ++ Text.upper ((t.map (·.text)).getD event.text))

/-- A foreign key behind its words. -/
def foreignKey (columns : ColumnList) : Reader ForeignKeyClause := do
  let own ← (do if ← nextIsKeyword "REFERENCES" then return [] else wrapped names)
  let reference ← (do
    if ← keyword "REFERENCES" then return some (← referenceClause columns) else return none)
  let actions ← many looseAction
  let options ← keyOptions
  return { columns := own, reference, actions, options, comments := ← takeComments }

/-- A property between parentheses, such as `fillfactor = 70`. -/
def storageParameter (d : Dialect) (n : Nested) : Reader (Option Unit) := do
  match ← orElse (column d n) (do return (← anyName).map Expr.ofIdent) with
  | none => return none
  | some _ =>
    if ← mark "=" then
      let _ ← orElse n.sum (do return (← anyWord).map .word)
    return some ()

/-- The key of an index, with the operators that compare its values. -/
def indexKey (n : Nested) : Reader (Option Expr) := do
  match ← n.condition with
  | none => return none
  | some e =>
    let follows ← nextIs fun t =>
      t.isMark "," || t.isMark ")" || ["ASC", "DESC", "NULLS", "WITH"].contains t.caseless
    if !follows && !(← atEnd) then
      let _ ← tableName
    let _ ← orElse (takeIf (·.isKeyword "ASC")) (takeIf (·.isKeyword "DESC"))
    let _ ← phraseOf [["NULLS", "FIRST"], ["NULLS", "LAST"]]
    if ← keyword "WITH" then
      let _ ← next
    return some e

/-- What may stand behind the columns of an index or a key. -/
def indexParameters (d : Dialect) (n : Nested) : Reader (List Expr) := do
  if ← keyword "USING" then
    let _ ← anyWord
  let keys ← (do if ← nextIsMark "(" then wrapped (values (indexKey n)) else return [])
  if ← word "INCLUDE" then
    let _ ← wrapped names
  if ← keyword "PARTITION BY" then
    let _ ← values n.condition
  if ← keyword "WITH" then
    let _ ← wrapped (items (storageParameter d n))
  if ← word "TABLESPACE" then
    let _ ← anyWord
  if ← keyword "WHERE" then
    let _ ← n.condition
  return keys

/-- A column of a primary key. MySQL takes a name and the length of a prefix. -/
def primaryKeyPart (d : Dialect) (n : Nested) : Reader (Option Expr) := do
  if d == .mysql then
    match ← anyName with
    | none => return none
    | some i =>
      if ← mark "(" then
        let size ← takeIf (·.kind == .number)
        expectMark ")"
        let length : List Part := match size with
          | some t => [.text ("(" ++ t.text ++ ")")]
          | none => []
        return some (.phrase "columnprefix" (Expr.someName i.text) (.value (.name i) :: length))
      return some (.name i)
  plainField d n

/-- A primary key behind its words. -/
def primaryKey (d : Dialect) (n : Nested) : Reader Rule := do
  let _ ← orElse (takeIf (·.isKeyword "ASC")) (takeIf (·.isKeyword "DESC"))
  if !(← nextIsMark "(") then
    let _ ← keyOptions
    return .primaryKey
  let columns ← wrapped (values (primaryKeyPart d n))
  let _ ← indexParameters d n
  let _ ← keyOptions
  return .keyOf columns

/-- What is done if a key is there already. -/
def onConflict : Reader Unit := do
  if ← words ["ON", "CONFLICT"] then
    let _ ← oneOf ["ABORT", "FAIL", "IGNORE", "REPLACE", "ROLLBACK"]

/-- A unique key behind its word. `standsAlone` says that another rule starts here. -/
def uniqueKey (d : Dialect) (columns : ColumnList) (standsAlone : Bool) : Reader Rule := do
  if standsAlone then return .unique none none
  let _ ← oneOf ["KEY", "INDEX"]
  let _ ← words ["NULLS", "NOT", "DISTINCT"]
  let i ← (if d == .postgresql then pure none else name)
  let group ← columns
  if ← keyword "USING" then
    let _ ← anyWord
  onConflict
  let _ ← keyOptions
  return .unique i (group.map (·.columns))

/-- An option of an index in MySQL. -/
def indexOption : Reader (Option Unit) := do
  if ← word "KEY_BLOCK_SIZE" then
    let _ ← mark "="
    let _ ← takeIf (·.kind == .number)
    return some ()
  if ← keyword "USING" then
    let _ ← anyWord
    return some ()
  if ← words ["WITH", "PARSER"] then
    let _ ← anyWord
    return some ()
  if ← keyword "COMMENT" then
    let _ ← textToken
    return some ()
  if ← word "VISIBLE" then return some ()
  if ← word "INVISIBLE" then return some ()
  match ← oneOf ["ENGINE_ATTRIBUTE", "SECONDARY_ENGINE_ATTRIBUTE"] with
  | some _ =>
    let _ ← mark "="
    let _ ← textToken
    return some ()
  | none => return none

/-- An index of MySQL behind its first word. -/
def indexRule (d : Dialect) (n : Nested) (special : Bool) : Reader Rule := do
  if special then
    let _ ← oneOf ["INDEX", "KEY"]
  let i ← name
  if ← keyword "USING" then
    let _ ← anyWord
  let es ← wrapped (values (ordered d n true))
  let _ ← many indexOption
  return .index i es

end SchemaDesk.Sql.Grammar
