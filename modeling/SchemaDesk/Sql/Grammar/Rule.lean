import SchemaDesk.Sql.Grammar.Key
import SchemaDesk.Sql.RuleText
/-!
The rules of columns and tables.
-/

namespace SchemaDesk.Sql.Grammar

open Reader

/-- The words that a rule starts with. -/
def ruleWords (d : Dialect) : List String := [
  "AUTOINCREMENT", "AUTO_INCREMENT", "CASESPECIFIC", "CHARACTER SET", "CHECK", "CLUSTERED",
  "COLLATE", "COMMENT", "COMPRESS", "DEFAULT", "ENCODE", "EPHEMERAL", "EXCLUDE", "FOREIGN KEY",
  "FORMAT", "GENERATED", "IDENTITY", "INLINE", "LIKE", "NONCLUSTERED", "NOT", "NULL", "ON", "PATH",
  "PRIMARY KEY", "REFERENCES", "TITLE", "TTL", "UNIQUE", "UPPERCASE", "WITH"] ++
  if d == .mysql then ["FULLTEXT", "INDEX", "KEY", "SPATIAL", "ZEROFILL"] else []

/-- The words that a rule of a table starts with if it has no name. -/
def tableRuleWords (d : Dialect) : List String := [
  "CHECK", "EXCLUDE", "FOREIGN KEY", "LIKE", "PRIMARY KEY", "UNIQUE"] ++
  if d == .mysql then ["FULLTEXT", "INDEX", "KEY", "SPATIAL"] else []

/-- A rule that is written as a text. -/
def plainRule (kind written : String) : Rule := .other kind none [.text written]

/-- A sequence behind the word for it. -/
def autoIncrement (n : Nested) : Reader Rule := do
  if ← nextIsMark "(" then
    let _ ← wrapped (values n.sum)
  else if ← word "START" then
    let _ ← n.sum
    let _ ← word "INCREMENT"
    let _ ← n.sum
  return .autoIncrement

/-- The parts of the sequence of a generated column, if there are any. -/
def sequenceOptions (n : Nested) : Reader Unit := do
  if ← keyword "START WITH" then
    let _ ← n.sum
  if ← words ["INCREMENT", "BY"] then
    let _ ← n.sum
  if ← word "MINVALUE" then
    let _ ← n.sum
  if ← word "MAXVALUE" then
    let _ ← n.sum
  if ← word "CYCLE" then pure () else
    let _ ← words ["NO", "CYCLE"]

/-- An expression without the parentheses around it. -/
def unwrapped : Expr → Expr
  | .noted comments e =>
    match e with
    | .paren inner => unwrapped inner
    | e => .noted comments e
  | .paren e => unwrapped e
  | e => e

/-- How a column is computed, and whether its values are kept. -/
structure Computation where
  value : Expr
  stored : Bool
  /-- The words `NOT NULL` belong to the computation. -/
  required : Bool := false

/-- A column computed from an expression. -/
def Computation.rule (d : Dialect) (c : Computation) : Rule :=
  let written : List Part := match d with
    | .postgresql => [.text "GENERATED ALWAYS AS (", .value c.value, .text ") STORED"]
    | .mysql => [.text "GENERATED ALWAYS AS (", .value (unwrapped c.value),
        .text (if c.stored then ") STORED" else ") VIRTUAL")]
    | .sqlite => [.text "AS ", .value c.value, .text (if c.required then " PERSISTED NOT NULL"
        else if c.stored then " PERSISTED" else "")]
  .other "computedcolumnconstraint" c.value.heart? written

/-- A generated column behind its first word. -/
def generated (d : Dialect) (n : Nested) : Reader Rule := do
  if ← words ["BY", "DEFAULT"] then
    let _ ← words ["ON", "NULL"]
  else
    let _ ← word "ALWAYS"
  let _ ← keyword "ALIAS"
  if ← word "ROW" then
    let start ← word "START"
    if !start then
      let _ ← keyword "END"
    let hidden ← word "HIDDEN"
    return plainRule "generatedasrowcolumnconstraint"
      ("GENERATED ALWAYS AS ROW " ++ (if start then "START" else "END") ++
        if hidden then " HIDDEN" else "")
  let sequence ← word "IDENTITY"
  let value ← (do
    if ← mark "(" then
      sequenceOptions n
      let e ← (do
        if sequence then
          let _ ← values n.sum
          return none
        else n.condition)
      expectMark ")"
      return e
    return none)
  match d, value with
  | .postgresql, some value =>
    if ← word "STORED" then return { value, stored := true : Computation }.rule d
    return .autoIncrement
  | .mysql, some value =>
    match ← oneOf ["STORED", "VIRTUAL"] with
    | some w => return { value, stored := w == "STORED" : Computation }.rule d
    | none => return .autoIncrement
  | _, _ => return .autoIncrement

/-- A definition like that of another table, behind the word for it. Only PostgreSQL writes it in
parentheses. -/
def likeRule (d : Dialect) (n : Nested) (columns : ColumnList) : Reader Rule := do
  let (heart, table) ← (do
    match ← wrappedSource d n with
    | some e => return (e.heart?, e.render d)
    | none =>
      let (t, group) ← tableWithColumns columns
      return (Expr.someName t.name.text,
        t.render d ++ columnList (Expr.renders d group.columns)))
  let options ← many do
    match ← oneOf ["INCLUDING", "EXCLUDING"] with
    | some w => return some (" " ++ w ++ " " ++ Text.upper (((← anyName).map (·.text)).getD ""))
    | none => return none
  let written := "LIKE " ++ table ++ String.join options
  return .other "likeproperty" heart
    [.text (if d == .postgresql then "(" ++ written ++ ")" else written)]

/-- A rule that consists of words and an expression. -/
def valued (kind front : String) (value : Reader (Option Expr)) : Reader (Option Rule) := do
  let e ← required value
  return some (.other kind e.heart? [.text front, .value e])

def textValue : Reader (Option Expr) := do
  match ← textToken with
  | some s => some <$> noted (.text s)
  | none => return none

def wordValue : Reader (Option Expr) := do
  match ← plainWord with
  | some w => some <$> noted (.word w)
  | none => return none

/-- `COLLATE` takes the name of a collation. -/
def collation (d : Dialect) (n : Nested) : Reader (Option Expr) := do
  match ← quotedName with
  | some i => return some (.name i)
  | none => column d n

/-- `ON` starts what is done at an update, or a property. -/
def onRule (d : Dialect) (n : Nested) : Reader (Option Rule) := do
  if ← keyword "UPDATE" then
    valued "onupdatecolumnconstraint" "ON UPDATE " (call d n false false)
  else valued "onproperty" "ON " do return (← anyName).map Expr.name

/-- The columns by which rows are stored, or are not. -/
def clustering (d : Dialect) (n : Nested) (kind word : String) : Reader Rule := do
  let keys ← wrapped (values (ordered d n true))
  return .other kind none (.text (word ++ " (") :: Part.list keys ++ [.text ")"])

/-- A remark, which PostgreSQL does not write with a column. -/
def columnRemark (d : Dialect) : Reader (Option Rule) := do
  let s ← required textValue
  return some (.other "commentcolumnconstraint" s.heart?
    (if d == .postgresql then [] else [.text "COMMENT ", .value s]))

/-- The rule that starts with a word, behind the word; none if the word starts something else. -/
def ruleOf (d : Dialect) (n : Nested) (columns : ColumnList) (start : String) :
    Reader (Option Rule) := do
  match start with
  | "AUTOINCREMENT" => some <$> autoIncrement n
  | "AUTO_INCREMENT" => some <$> autoIncrement n
  | "IDENTITY" => some <$> autoIncrement n
  | "CASESPECIFIC" => return some (plainRule "casespecificcolumnconstraint" "CASESPECIFIC")
  | "CHARACTER SET" => valued "charactersetcolumnconstraint" "CHARACTER SET " wordOrText
  | "CHECK" => do
    let e ← wrapped (required n.condition)
    let _ ← word "ENFORCED"
    return some (.check e)
  | "CLUSTERED" => some <$> clustering d n "clusteredcolumnconstraint" "CLUSTERED"
  | "NONCLUSTERED" => some <$> clustering d n "nonclusteredcolumnconstraint" "NONCLUSTERED"
  | "COLLATE" => valued "collatecolumnconstraint" "COLLATE " (collation d n)
  | "COMMENT" => columnRemark d
  | "COMPRESS" => valued "compresscolumnconstraint" "COMPRESS " n.sum
  | "DEFAULT" => do return some (.default (← required n.sum))
  | "ENCODE" => valued "encodecolumnconstraint" "ENCODE " wordValue
  | "EPHEMERAL" => do
    let e ← n.sum
    return some (.other "ephemeralcolumnconstraint" (e.bind Expr.heart?) (match e with
      | some e => [.text "EPHEMERAL ", .value e]
      | none => [.text "EPHEMERAL"]))
  | "EXCLUDE" => do
    let es ← indexParameters d n
    return some (plainRule "excludecolumnconstraint"
      ("EXCLUDE" ++ columnList (Expr.renders d es)))
  | "FOREIGN KEY" => do return some (.foreignKey (← foreignKey columns))
  | "FORMAT" => valued "dateformatcolumnconstraint" "FORMAT " wordOrText
  | "GENERATED" => some <$> generated d n
  | "INLINE" => do
    let _ ← word "LENGTH"
    valued "inlinelengthcolumnconstraint" "INLINE LENGTH " n.sum
  | "LIKE" => some <$> likeRule d n columns
  | "NOT" => do
    if ← word "NULL" then return some .notNull
    if ← word "CASESPECIFIC" then
      return some (plainRule "casespecificcolumnconstraint" "NOT CASESPECIFIC")
    if ← words ["FOR", "REPLICATION"] then
      return some (plainRule "notforreplicationcolumnconstraint" "NOT FOR REPLICATION")
    return none
  | "NULL" => return some .null
  | "ON" => onRule d n
  | "PATH" => valued "pathcolumnconstraint" "PATH " textValue
  | "PRIMARY KEY" => some <$> primaryKey d n
  | "REFERENCES" => do return some (.references (← referenceClause columns))
  | "TITLE" => valued "titlecolumnconstraint" "TITLE " wordOrText
  | "TTL" => valued "mergetreettl" "TTL " n.sum
  | "UNIQUE" => do
    let standsAlone ← nextIs fun t => (ruleWords d).contains (Text.upper t.text)
    some <$> uniqueKey d columns (d == .sqlite && standsAlone)
  | "UPPERCASE" => return some (plainRule "uppercasecolumnconstraint" "UPPERCASE")
  | "WITH" => do
    let _ ← wrapped (items (storageParameter d n))
    return some (plainRule "properties" "WITH")
  | "FULLTEXT" => some <$> indexRule d n true
  | "SPATIAL" => some <$> indexRule d n true
  | "INDEX" => some <$> indexRule d n false
  | "KEY" => some <$> indexRule d n false
  | "ZEROFILL" => return some (plainRule "zerofillcolumnconstraint" "ZEROFILL")
  | _ => return none

/-- A rule of a column, with its name if it has one. -/
def columnConstraint (d : Dialect) (n : Nested) (columns : ColumnList) :
    Reader (Option ColumnConstraint) := do
  let name ← (do if ← keyword "CONSTRAINT" then anyName else return none)
  match ← oneOf (ruleWords d) with
  | some w =>
    match ← ruleOf d n columns w with
    | some r => return some { name, rule := some r, comments := ← takeComments }
    | none => fault .missingOperand
  | none => return name.map fun i => { name := some i, rule := none }

/-- A rule of a table without a name. -/
def unnamedRule (d : Dialect) (n : Nested) (columns : ColumnList) (starts : List String) :
    Reader (Option Rule) := do
  if ← nextIs (·.kind == .quoted) then return none
  let start ← get
  match ← oneOf starts with
  | some w =>
    match ← ruleOf d n columns w with
    | some r => return some r
    | none =>
      backTo start
      return none
  | none => return none

/-- Rules of a table with or without a name. -/
def tableRules (d : Dialect) (n : Nested) (columns : ColumnList) :
    Reader (Option (List TableItem)) := do
  if ← keyword "CONSTRAINT" then
    let i ← anyName
    let rules ← many do
      match ← unnamedRule d n columns (ruleWords d) with
      | some r => return some (.rule i r)
      | none => return (← call d n false false).map (.value i)
    if rules.isEmpty then fault .missingOperand
    return some rules
  return (← unnamedRule d n columns (tableRuleWords d)).map fun r => [.rule none r]

end SchemaDesk.Sql.Grammar
