import SchemaDesk.Sql.Token
/-!
The types of columns as they are written. They are read from the tokens of a script, because the
canonical text of a type may have another name.
-/

namespace SchemaDesk.Sql.SourceType

/-- Words behind a type that do not belong to it any more. -/
def stopWords : List String := [
  "NOT", "NULL", "PRIMARY", "PRIMARY KEY", "KEY", "UNIQUE", "DEFAULT", "REFERENCES", "CHECK",
  "CONSTRAINT", "AUTO_INCREMENT", "AUTOINCREMENT", "GENERATED", "IDENTITY", "COLLATE", "COMMENT",
  "CHARACTER SET", "CHARSET", "ON", "AS"]

/-- Words that start an item which is no column. -/
def itemWords : List String := [
  "CONSTRAINT", "PRIMARY", "PRIMARY KEY", "UNIQUE", "FOREIGN", "FOREIGN KEY", "CHECK", "KEY",
  "INDEX", "EXCLUDE", "LIKE", "FULLTEXT", "SPATIAL"]

/-- Words between `TABLE` and the name of the table. -/
def prefixWords : List String := ["IF", "NOT", "EXISTS", "IF NOT EXISTS"]

/-- The tokens between semicolons, empty statements left out. -/
def statements (tokens : List Token) : List (List Token) :=
  (tokens.splitOnP (·.isMark ";")).filter fun s => !s.isEmpty

/-- The last name before the first parenthesis, which must stand behind the word `TABLE`. -/
def tableName? (seen : Bool) (found : Option String) : List Token → Option String
  | [] => none
  | t :: ts =>
    if t.isMark "(" then found
    else if t.caseless == "TABLE" then tableName? true found ts
    else if seen && !t.isMark "." && !prefixWords.contains t.caseless then
      tableName? seen (some t.text) ts
    else tableName? seen found ts

/-- The items between commas up to the closing parenthesis; `depth` parentheses are open inside of
the current item. -/
def itemsFrom (depth : Nat) (current : List Token) : List Token → List (List Token)
  | [] => [current]
  | t :: ts =>
    if t.isMark "(" then itemsFrom (depth + 1) (current ++ [t]) ts
    else if t.isMark ")" then
      match depth with
      | 0 => [current]
      | d + 1 => itemsFrom d (current ++ [t]) ts
    else if t.isMark "," && depth == 0 then current :: itemsFrom 0 [] ts
    else itemsFrom depth (current ++ [t]) ts

/-- The items of a statement behind its first parenthesis, empty ones left out. -/
def items (statement : List Token) : List (List Token) :=
  (itemsFrom 0 [] ((statement.dropWhile fun t => !t.isMark "(").drop 1)).filter fun i => !i.isEmpty

/-- The name and the items of the table that a statement creates. -/
def createdTable? (statement : List Token) : Option (String × List (List Token)) :=
  match statement with
  | [] => none
  | t :: _ =>
    if t.caseless == "CREATE" then
      (tableName? false none statement).map fun name => (name, items statement)
    else none

/-- The words of a type, without parameters and array bounds, up to the first stop word. -/
def typeWords (depth : Int) : List Token → List String
  | [] => []
  | t :: ts =>
    if t.isMark "(" then typeWords (depth + 1) ts
    else if t.isMark ")" then typeWords (depth - 1) ts
    else if 0 < depth || t.isMark "[" || t.isMark "]" then typeWords depth ts
    else if stopWords.contains t.caseless then []
    else t.text :: typeWords depth ts

def typeText (tokens : List Token) : String := " ".intercalate (typeWords 0 tokens)

/-- The column of an item with its type, if the item is one. -/
def column? (item : List Token) : Option (String × String) :=
  match item with
  | name :: rest =>
    if rest.isEmpty || itemWords.contains name.caseless then none
    else
      let type := typeText rest
      if type == "" then none else some (Text.lower name.text, type)
  | [] => none

/-- The types of the columns by the lower-case names of tables and columns. -/
abbrev Types := List (String × List (String × String))

/-- The types of all tables. Of several tables or columns of one name the first counts. -/
def all (tokens : List Token) : Types :=
  ((statements tokens).filterMap createdTable?).map fun (name, items) =>
    (Text.lower name, items.filterMap column?)

/-- The types of the columns of a table. -/
def ofTable (types : Types) (table : String) : List (String × String) :=
  (types.lookup (Text.lower table)).getD []

/-- The type of a column. -/
def ofColumn? (columns : List (String × String)) (column : String) : Option String :=
  columns.lookup (Text.lower column)

end SchemaDesk.Sql.SourceType
