import SchemaDesk.Sql.Grammar.Property
/-!
The statements that create and alter things. A statement that does not end where it should is kept as
a command.
-/

namespace SchemaDesk.Sql.Grammar

open Reader

/-- What the statements of a script have in common. -/
structure Setting where
  dialect : Dialect
  text : List Char
  inner : Nested
  columns : ColumnList

namespace Setting

/-- The readers for a statement of so many tokens. -/
def ofSize (d : Dialect) (text : List Char) (size : Nat) : Setting :=
  let n := nested d (size + 2)
  { dialect := d, text := text, inner := n, columns := columnGroup d n (size + 2) }

end Setting

/-- The kinds of things whose names are like those of tables. -/
def storedKinds : List String := [
  "DATABASE", "DICTIONARY", "MODEL", "NAMESPACE", "SCHEMA", "SEQUENCE", "SESSION", "SINK", "SOURCE",
  "STAGE", "TABLE", "TAG", "VIEW", "WAREHOUSE"]

def creatableKinds : List String :=
  ["COLUMN", "CONSTRAINT", "FOREIGN KEY", "FUNCTION", "INDEX", "PROCEDURE"] ++ storedKinds

/-- A token for a kind of things, whose name is the kind. -/
def isKind (kinds : List String) (t : Token) : Bool :=
  match t.kind with
  | .keyword name => kinds.contains name
  | _ => false

/-- Steps over everything that is left; the statement is its first word and the rest of its text. -/
def asCommand (s : Setting) (start : Token) : Reader Statement := do
  let c ← get
  let last := (c.rest.getLast?.or c.last).getD start
  set ({ last := some last, rest := [], comments := [] } : Cursor)
  let rest := (s.text.drop (start.stop + 1)).take (last.stop - start.stop)
  return .command start.text (String.ofList rest)

/-- An index behind its name. -/
def indexOn (s : Setting) : Reader Unit := do
  let _ ← keyword "ON"
  let _ ← keyword "TABLE"
  let _ ← tableName
  let _ ← indexParameters s.dialect s.inner

/-- An index inside of the definition of a table. -/
def innerIndex (s : Setting) : Reader (Option Unit) := do
  let _ ← keyword "UNIQUE"
  let _ ← word "PRIMARY"
  let _ ← word "AMP"
  if !(← keyword "INDEX") then return none
  let _ ← anyName
  let _ ← indexParameters s.dialect s.inner
  return some ()

/-- A query that fills a table, with or without parentheses around it. -/
def definingQuery (s : Setting) : Reader Bool := do
  match ← orElse s.inner.query (operandQuery s.dialect s.inner) with
  | some q =>
    let _ ← s.inner.joined q
    return true
  | none => return false

/-- The words in front of the kind of thing that is created: properties, then the kind. -/
def createdKind (s : Setting) : Reader (Option String) := do
  match ← takeIf (isKind creatableKinds) with
  | some t => return some t.caseless
  | none =>
    let count ← properties s.dialect s.inner s.columns
    match ← takeIf (isKind creatableKinds) with
    | some t => return if count == 0 then none else some t.caseless
    | none => return none

/-- The body of a function is not read. -/
def routine (s : Setting) : Reader Unit := do
  let _ ← tableName
  if ← mark "(" then
    let _ ← items do
      match ← anyName with
      | none => return none
      | some _ =>
        let _ ← s.inner.type false true
        return some ()
    expectMark ")"
  let _ ← properties s.dialect s.inner s.columns
  if ← keyword "ALIAS" then
    if (← textToken).isNone then
      let _ ← orElse s.inner.query s.inner.condition
  let _ ← properties s.dialect s.inner s.columns

/-- What is created behind its kind: the table and its items, or nothing of interest. -/
def storedDefinition (s : Setting) (kind : String) : Reader (TableName × List TableItem) := do
  let t ← tableName
  let _ ← mark ","
  let _ ← many (earlyProperty s.dialect s.inner s.columns)
  let group ← definition s.dialect s.inner s.columns
  let _ ← properties s.dialect s.inner s.columns
  let named ← keyword "ALIAS"
  if !(← nextIs fun t => t.isKeyword "SELECT" || t.isKeyword "WITH" || t.isMark "(") then
    let _ ← properties s.dialect s.inner s.columns
  if kind == "SEQUENCE" then
    let _ ← s.inner.type false true
    let _ ← properties s.dialect s.inner s.columns
  else
    let found ← definingQuery s
    if !found && named then
      let _ ← attempt do return some (← tableName)
  if kind == "TABLE" then
    let _ ← properties s.dialect s.inner s.columns
    let _ ← many do
      match ← innerIndex s with
      | none => return none
      | some _ =>
        let _ ← properties s.dialect s.inner s.columns
        let _ ← mark ","
        return some ()
  if kind == "VIEW" then
    let _ ← words ["WITH", "NO", "SCHEMA", "BINDING"]
  return (t, (group.map (·.1)).getD [])

/-- A definition behind the word `CREATE`. -/
def creation (s : Setting) (start : Token) : Reader Statement := do
  let _ ← phraseOf [["OR", "REPLACE"], ["OR", "ALTER"]]
  let _ ← keyword "UNIQUE"
  match ← createdKind s with
  | none => asCommand s start
  | some kind =>
    let _ ← word "CONCURRENTLY"
    let _ ← existsClause true
    let statement ← (do
      if kind == "FUNCTION" || kind == "PROCEDURE" then
        routine s
        return .create (Text.lower kind)
      if kind == "INDEX" then
        if !(← keyword "ON") then
          let _ ← anyName
        indexOn s
        return .create "index"
      if storedKinds.contains kind then
        let (t, group) ← storedDefinition s kind
        return if kind == "TABLE" then .createTable t group else .create (Text.lower kind)
      return .create (Text.lower kind))
    let ends ← nextIs fun t => t.isMark ")" || t.isMark ","
    if ends || (← atEnd) then return statement
    asCommand s start

/-- The words that a rule in an added item starts with. -/
def addedRuleWords : List String :=
  ["CONSTRAINT", "FOREIGN KEY", "INDEX", "KEY", "PRIMARY KEY", "UNIQUE"]

/-- An item that is added to a table. -/
def addedItem (s : Setting) : Reader (Option (List TableItem)) := do
  let _ ← word "ADD"
  if ← nextIs (isKind addedRuleWords) then
    return ← tableRules s.dialect s.inner s.columns
  if !(((← last).map (·.caseless == "ADD")).getD false) then return none
  let _ ← keyword "COLUMN"
  let _ ← existsClause true
  match ← tableItems s.dialect s.inner s.columns with
  | some [.column name type constraints] =>
    match ← oneOf ["FIRST", "AFTER"] with
    | some _ =>
      let _ ← column s.dialect s.inner
      return some [.column name type constraints]
    | none => return some [.column name type constraints]
  | _ => return none

/-- A change of a column behind the word for it. -/
def columnChange (s : Setting) : Reader Unit := do
  let _ ← keyword "COLUMN"
  let _ ← field s.dialect s.inner
  if ← words ["DROP", "DEFAULT"] then return ()
  if ← words ["SET", "DEFAULT"] then
    let _ ← s.inner.condition
    return ()
  if ← keyword "COMMENT" then
    let _ ← textToken
    return ()
  if ← words ["DROP", "NOT", "NULL"] then return ()
  if ← words ["SET", "NOT", "NULL"] then return ()
  if ← words ["SET", "VISIBLE"] then return ()
  if ← words ["SET", "INVISIBLE"] then return ()
  let _ ← words ["SET", "DATA"]
  let _ ← word "TYPE"
  let _ ← s.inner.type false true
  if ← keyword "COLLATE" then
    let _ ← s.inner.sum
  if ← keyword "USING" then
    let _ ← s.inner.condition

/-- What is dropped, behind the word `DROP`. A kind that is not known takes everything that is
left. -/
def drop (s : Setting) (start : Token) : Reader Statement := do
  let _ ← keyword "TEMPORARY"
  let _ ← word "MATERIALIZED"
  match ← takeIf (isKind creatableKinds) with
  | none => asCommand s start
  | some t =>
    let _ ← word "CONCURRENTLY"
    let _ ← existsClause false
    if t.isKeyword "COLUMN" then
      let _ ← column s.dialect s.inner
    else
      let _ ← tableName
    if ← keyword "ON" then onProperty s.columns
    if ← nextIsMark "(" then
      let _ ← wrapped (items (s.inner.type false true))
    let _ ← word "CASCADE"
    let _ ← word "CONSTRAINTS"
    let _ ← word "PURGE"
    return .other "drop"

/-- A new name behind the word `RENAME`. -/
def newName (s : Setting) : Reader Bool := do
  if ← keyword "COLUMN" then
    let _ ← existsClause false
    let old ← column s.dialect s.inner
    let linked ← word "TO"
    let new ← column s.dialect s.inner
    return old.isSome && linked && new.isSome
  let _ ← word "TO"
  let _ ← tableWithColumns s.columns
  return true

/-- Settings of a table behind the word `SET`. -/
def tableSettings (s : Setting) : Reader Unit := do
  if ← nextIsMark "(" then
    let _ ← wrapped (values s.inner.condition)
  else
    match ← oneOf ["LOGGED", "UNLOGGED", "WITHOUT", "WITH", "LOCATION", "TABLESPACE"] with
    | some _ =>
      let _ ← anyWord
    | none =>
      if ← words ["ACCESS", "METHOD"] then
        let _ ← anyWord
      else
        let _ ← properties s.dialect s.inner s.columns

/-- The foreign keys among added items, those without a name first. -/
def foreignKeysOf (group : List TableItem) : List (Option Ident × ForeignKeyClause) :=
  let keys := group.filterMap fun
    | .rule i (.foreignKey k) => some (i, k)
    | _ => none
  keys.filter (·.1.isNone) ++ keys.filter (·.1.isSome)

/-- What an alteration does, by its first word: its foreign keys, or nothing if it is not clear. -/
def alterationOf (s : Setting) (start : Token) : Reader (Option (List TableItem)) := do
  match start.caseless with
  | "ADD" => do
    let groups ← items (addedItem s)
    return if groups.isEmpty then none else some groups.flatten
  | "ALTER" => do
    columnChange s
    return some []
  | "MODIFY" => do
    if s.dialect == .mysql then
      columnChange s
      return some []
    return none
  | "RENAME" => do return if ← newName s then some [] else none
  | "SET" => do
    tableSettings s
    return some []
  | "AS" => do return (← s.inner.query).map fun _ => []
  | "DELETE" => do
    if ← keyword "WHERE" then
      let _ ← s.inner.condition
    return some []
  | "CLUSTER BY" => do
    let _ ← wrapped (values (ordered s.dialect s.inner true))
    return some []
  | "DROP" => do
    let _ ← drop s start
    let _ ← many do
      if ← mark "," then
        match ← takeIf (·.isKeyword "DROP") with
        | some t =>
          let _ ← drop s t
          return some ()
        | none => return none
      return none
    return some []
  | _ => return none

/-- An alteration behind the word `ALTER`. -/
def alteration (s : Setting) (start : Token) : Reader Statement := do
  match ← takeIf (isKind ["INDEX", "TABLE", "VIEW", "SESSION"]) with
  | none => asCommand s start
  | some kind =>
    let _ ← existsClause false
    let _ ← word "ONLY"
    let table ← (do
      if kind.isKeyword "SESSION" then return none
      let (t, _) ← tableWithColumns s.columns
      let _ ← words ["WITH", "CHECK"]
      if ← keyword "ON" then onProperty s.columns
      if (← peekSecond).isSome then
        let _ ← next
      return some t)
    match ← last with
    | none => asCommand s start
    | some first =>
      match ← alterationOf s first with
      | none => asCommand s start
      | some added =>
        let _ ← words ["NOT", "VALID"]
        let _ ← items (property s.dialect s.inner s.columns)
        if ← atEnd then return .alter table (foreignKeysOf added)
        asCommand s start

end SchemaDesk.Sql.Grammar
