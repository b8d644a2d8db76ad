import SchemaDesk.Sql.Grammar.Change
/-!
Statements of all kinds, and scripts as lists of statements.
-/

namespace SchemaDesk.Sql.Grammar

open Reader

/-- A variable that gets a value. -/
def assignment (s : Setting) : Reader (Option Unit) := do
  let start ← get
  let _ ← oneOf ["GLOBAL", "LOCAL", "SESSION"]
  if s.dialect == .mysql then
    if ← word "NAMES" then
      let _ ← orElse wordOrText (do return (← anyName).map Expr.name)
      if ← keyword "COLLATE" then
        let _ ← wordOrText
      return some ()
    match ← oneOf ["CHARACTER SET", "CHARSET"] with
    | some _ =>
      let _ ← orElse wordOrText (do return (← anyName).map Expr.name)
      return some ()
    | none => pure ()
  let target ← column s.dialect s.inner
  let assigned ← (mark "=" <||> mark ":=" <||> word "TO")
  if target.isNone || !assigned then
    backTo start
    return none
  let value ← orElse s.inner.condition do return (← anyWord).map .word
  return value.map fun _ => ()

/-- Settings behind the word `SET`. -/
def settings (s : Setting) (start : Token) : Reader Statement := do
  let before ← get
  let _ ← items (assignment s)
  if ← atEnd then return .other "set"
  backTo before
  asCommand s start

/-- A remark on a thing, behind the word `COMMENT`. -/
def remark (s : Setting) (start : Token) : Reader Statement := do
  let _ ← existsClause false
  let _ ← keyword "ON"
  let _ ← word "MATERIALIZED"
  match ← takeIf (isKind creatableKinds) with
  | none => asCommand s start
  | some t =>
    if t.isKeyword "TABLE" then
      let _ ← tableName
    else if t.isKeyword "COLUMN" then
      let _ ← column s.dialect s.inner
    else if t.isKeyword "FUNCTION" || t.isKeyword "PROCEDURE" then routine s
    else
      let _ ← anyName
    let _ ← keyword "IS"
    let _ ← textToken
    return .other "comment"

/-- A right, up to the next comma or the word `ON`. -/
def privilege (s : Setting) : Reader (Option Unit) := do
  let _ ← many (takeIf fun t => !(t.isMark "," || t.isKeyword "ON" || t.isMark "("))
  if ← nextIsMark "(" then
    let _ ← wrapped (items (column s.dialect s.inner))
  return some ()

/-- Rights behind the word `GRANT`. -/
def granting (s : Setting) (start : Token) : Reader Statement := do
  let _ ← items (privilege s)
  let _ ← keyword "ON"
  let _ ← takeIf (isKind creatableKinds)
  let thing ← attempt do return some (← tableName)
  if !(← (pure thing.isSome <&&> word "TO")) then return ← asCommand s start
  let _ ← items do
    let _ ← oneOf ["ROLE", "GROUP"]
    anyName
  let _ ← words ["WITH", "GRANT", "OPTION"]
  if ← atEnd then return .other "grant"
  asCommand s start

/-- Tables that are emptied, behind the word `TRUNCATE`. -/
def truncation (s : Setting) (start : Token) : Reader Statement := do
  let _ ← keyword "DATABASE"
  let _ ← keyword "TABLE"
  let _ ← existsClause false
  let _ ← items do return some (← tableWithColumns s.columns)
  let _ ← phraseOf [["RESTART", "IDENTITY"], ["CONTINUE", "IDENTITY"]]
  let _ ← oneOf ["CASCADE", "RESTRICT"]
  if ← atEnd then return .other "truncatetable"
  asCommand s start

/-- The start of a transaction. -/
def beginning : Reader Statement := do
  let _ ← oneOf ["DEFERRED", "IMMEDIATE", "EXCLUSIVE"]
  let _ ← oneOf ["TRANSACTION", "WORK"]
  let _ ← items do
    let ws ← many (takeIf fun t => t.kind == .word || t.isKeyword "NOT")
    return if ws.isEmpty then none else some ()
  return .other "transaction"

/-- The end of a transaction. -/
def ending (kind : String) : Reader Statement := do
  let _ ← oneOf ["TRANSACTION", "WORK"]
  if ← word "TO" then
    let _ ← word "SAVEPOINT"
    let _ ← anyName
  if ← keyword "AND" then
    let _ ← word "NO"
    let _ ← word "CHAIN"
  return .other kind

/-- The database that is used. -/
def use : Reader Statement := do
  let _ ← oneOf ["ROLE", "WAREHOUSE", "DATABASE", "SCHEMA", "CATALOG"]
  if !(← atEnd) then
    let _ ← tableName
  return .other "use"

/-- The table that is described. -/
def description (s : Setting) : Reader Statement := do
  if (← s.inner.query).isNone && !(← atEnd) then
    let _ ← tableWithColumns s.columns
  return .other "describe"

/-- Everything that is left belongs to the statement. -/
def rest (kind : String) : Reader Statement := do
  let _ ← many (takeIf fun _ => true)
  return .other kind

/-- A statement that starts with a word of its own, behind that word. -/
def statementOf (s : Setting) (t : Token) (keyword : String) : Reader (Option Statement) := do
  match keyword with
  | "CREATE" => some <$> creation s t
  | "ALTER" => some <$> alteration s t
  | "DROP" => some <$> drop s t
  | "SET" => some <$> settings s t
  | "COMMENT" => some <$> remark s t
  | "GRANT" => some <$> granting s t
  | "TRUNCATE" => some <$> truncation s t
  | "BEGIN" => some <$> beginning
  | "COMMIT" => some <$> ending "commit"
  | "ROLLBACK" => some <$> ending "rollback"
  | "USE" => some <$> use
  | "DESC" => some <$> description s
  | "DESCRIBE" => some <$> description s
  | "PRAGMA" => do
    let _ ← named s.dialect s.inner
    return some (.other "pragma")
  | "ANALYZE" => some <$> rest "analyze"
  | "CACHE" => some <$> rest "cache"
  | "UNCACHE" => some <$> rest "uncache"
  | "COPY" => some <$> rest "copy"
  | "KILL" => some <$> rest "kill"
  | "LOAD" => some <$> rest "loaddata"
  | "ATTACH" => some <$> rest "attach"
  | "DETACH" => some <$> rest "detach"
  | "SHOW" => some <$> rest "show"
  | _ => return none

/-- A statement on rows, or an expression in its place. A word `IF` without conditions in parentheses
makes the statement a command. -/
def otherStatement (s : Setting) (t : Token) : Reader (Option Statement) := do
  if t.kind == .word && t.caseless == "IF" && !(← secondIs (·.isMark "(")) then
    let _ ← next
    return some (← asCommand s t)
  let found ← rowStatement s (← remaining)
  return found.map (.other ·.kind)

/-- A statement of any kind. -/
def statement (s : Setting) : Reader (Option Statement) := do
  match ← peek with
  | none => return none
  | some t =>
    if t.isMark ";" then
      let _ ← next
      return some (.other "semicolon")
    if Lexer.swallows s.dialect t then
      let _ ← next
      let rest ← textToken
      return some (.command t.text (rest.getD ""))
    match t.kind with
    | .keyword name =>
      let start ← get
      let _ ← next
      match ← statementOf s t name with
      | some found => return some found
      | none =>
        backTo start
        otherStatement s t
    | _ => otherStatement s t

/-- The tokens of a script, statement by statement. A semicolon that has a comment is a statement of
its own. -/
def chunks : List Token → List (List Token)
  | [] => [[]]
  | t :: ts =>
    if t.isMark ";" then
      [] :: (if !t.comments.isEmpty then [[t]] else []) ++ (if ts.isEmpty then [] else chunks ts)
    else
      match chunks ts with
      | c :: cs => (t :: c) :: cs
      | [] => [[t]]

/-- The statement that some tokens are, all of them. -/
def statementOfChunk (d : Dialect) (text : List Char) (tokens : List Token) :
    Except SyntaxFault (Option Statement) := do
  let read : Reader (Option Statement) := do
    let found ← statement (Setting.ofSize d text tokens.length)
    if ← atEnd then return found
    fault .leftover
  let (found, _) ← read.run { rest := tokens }
  return found

/-- The statements of a script from its tokens; empty ones are left out. -/
def script (d : Dialect) (text : List Char) (tokens : List Token) :
    Except SyntaxFault (List Statement) := do
  let found ← (chunks tokens).mapM (statementOfChunk d text)
  return found.filterMap id

end SchemaDesk.Sql.Grammar
