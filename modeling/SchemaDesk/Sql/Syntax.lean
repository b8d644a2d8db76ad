import SchemaDesk.Sql.Token
import SchemaDesk.Text.Digit
/-!
Statements as trees: expressions and types, the items of a table definition, and the statements that
define or alter a table. Of all other statements only the kind is kept.

Comments are kept where the canonical text shows them: behind a value, behind an operator, or in
front of a query.
-/

namespace SchemaDesk.Sql

/-- A name as it is written. -/
structure Ident where
  text : String
  quoted : Bool := false
  comments : List String := []
  deriving DecidableEq, Repr

/-- How an operator is written with its two operands. -/
inductive OperatorForm
  /-- Between the operands, with spaces. -/
  | between (symbol : String)
  /-- Between the operands, with `NOT` in front of the first one. -/
  | notBetween (symbol : String)
  /-- Between the operands, without spaces. -/
  | joined (symbol : String)
  /-- As a function of the operands. -/
  | call (function : String)
  deriving DecidableEq, Repr

/-- An operator between two operands: the name of its kind and its form. -/
structure Operator where
  kind : String
  form : OperatorForm
  /-- The operator counts as a function. -/
  isFunction : Bool := false
  deriving DecidableEq, Repr

mutual

inductive Expr
  /-- An expression with comments that belong to it. -/
  | noted (comments : List String) (e : Expr)
  /-- A name that stands for itself. -/
  | name (i : Ident)
  /-- A column, qualified by what stands in front of it. -/
  | column (qualifiers : List Expr) (last : Expr)
  | star
  | number (text : String)
  | text (s : String)
  | raw (s : String)
  | national (s : String)
  | bits (s : String)
  | hex (s : String)
  | escaped (s : String)
  | null
  | bool (b : Bool)
  /-- A word that is no name, such as the unit of a size. -/
  | word (text : String)
  /-- An operator in front; its symbol includes the space behind a word. -/
  | unary (kind symbol : String) (operand : Expr)
  | binary (operator : Operator) (comments : List String) (left right : Expr)
  | paren (inner : Expr)
  | tuple (items : List Expr)
  | array (items : List Expr)
  /-- Values of which equal ones count once. -/
  | distinct (items : List Expr)
  /-- A value whose rows are taken in an order. -/
  | sorted (value : Expr) (keys : List Expr)
  /-- A call of a function that is known by its name alone. -/
  | call (function : Ident) (arguments : List Expr)
  /-- A function of the language, in the words of the dialect. `heart` is the name that the function
  takes from its main argument. -/
  | known (kind : String) (heart : Option String) (written : List Part)
  | cast (kind : String) (operand : Expr) (type : TypeExpr)
  /-- A type in the place of a value. -/
  | typed (type : TypeExpr)
  | interval (amount : Option Expr) (unit : String)
  | aliased (value : Expr) (name : Ident)
  /-- Words and values in the order in which they are written. -/
  | phrase (kind : String) (heart : Option String) (written : List Part)
  /-- A query or a clause of one. -/
  | clause (kind : String) (written : List Part)
  /-- A query or a table between parentheses. -/
  | subquery (inner : Expr)

/-- What a phrase consists of. -/
inductive Part
  | text (s : String)
  | value (e : Expr)

inductive TypeExpr
  | named (name : String) (parameters : List Expr)
  /-- A type that the dialect does not know itself. -/
  | userDefined (path : List Ident) (parameters : List Expr)
  | array (element : TypeExpr) (bounds : List Expr)
  /-- A type that is built of others, or of fields with types. -/
  | composed (name : String) (parts : List Expr)
  /-- Texts of a character set. -/
  | characterSet (name : Expr)
  | noted (comments : List String) (t : TypeExpr)

end

instance : Inhabited Expr := ⟨.null⟩

namespace Expr

/-- The expression without the comments that belong to it. -/
def bare : Expr → Expr
  | .noted _ e => e.bare
  | e => e

/-- The expression with further comments. Those of an operator stand behind its symbol. -/
def note (comments : List String) (e : Expr) : Expr :=
  if comments.isEmpty then e
  else match e with
    | .noted cs e => .noted (cs ++ comments) e
    | .binary o cs l r => .binary o (cs ++ comments) l r
    | .name i => .name { i with comments := i.comments ++ comments }
    | e => .noted comments e

/-- The comments of an expression and the expression without them. -/
def takeNotes : Expr → List String × Expr
  | .noted cs e => (cs, e)
  | .binary o cs l r => (cs, .binary o [] l r)
  | .name i => (i.comments, .name { i with comments := [] })
  | e => ([], e)

def ofIdent (i : Ident) : Expr :=
  Expr.note i.comments (.column [] (.name { i with comments := [] }))

/-- A query without parentheses. -/
def isQuery (e : Expr) : Bool :=
  match e.bare with
  | .clause _ _ => true
  | _ => false

def isBinary (e : Expr) : Bool :=
  match e with
  | .binary _ _ _ _ => true
  | _ => false

/-- An operand in parentheses if it is an operation of two operands itself. -/
def wrapped (e : Expr) : Expr := if e.isBinary then .paren e else e

end Expr

namespace Part

/-- Values between commas. -/
def list : List Expr → List Part
  | [] => []
  | [e] => [.value e]
  | e :: es => .value e :: .text ", " :: list es

end Part

/-- A table with the names that qualify it. -/
structure TableName where
  qualifiers : List Ident
  name : Ident
  comments : List String := []

/-- A reference to a table, with the columns that are listed behind it. -/
structure Reference where
  table : TableName
  columns : List Expr
  /-- The comments of the list of columns. -/
  columnComments : List String := []
  /-- The actions and other options, in upper case. -/
  options : List String
  comments : List String := []

structure ForeignKeyClause where
  columns : List Ident
  reference : Option Reference
  /-- Actions that stand there without a reference. -/
  actions : List String
  options : List String
  comments : List String := []

/-- What is said about a column or a table. -/
inductive Rule
  | notNull
  | null
  /-- The words for a primary key, without columns. -/
  | primaryKey
  /-- A primary key over some columns. -/
  | keyOf (columns : List Expr)
  /-- The word for a unique key, with a name and with columns if they are given. -/
  | unique (name : Option Ident) (columns : Option (List Expr))
  | index (name : Option Ident) (columns : List Expr)
  | autoIncrement
  | default (value : Expr)
  | check (condition : Expr)
  | references (reference : Reference)
  | foreignKey (clause : ForeignKeyClause)
  /-- A rule of another kind, by the name of the kind, the name at its heart and its words. -/
  | other (kind : String) (heart : Option String) (written : List Part)

/-- A rule of a column, or a name of a rule with nothing behind it. -/
structure ColumnConstraint where
  name : Option Ident
  rule : Option Rule
  comments : List String := []

/-- An item between the parentheses of a definition. -/
inductive TableItem
  | column (name : Expr) (type : Option TypeExpr) (constraints : List ColumnConstraint)
  /-- A rule of the table with the name that it is given. -/
  | rule (name : Option Ident) (r : Rule)
  /-- An expression in the place of a rule. -/
  | value (name : Option Ident) (e : Expr)

inductive Statement
  | createTable (table : TableName) (items : List TableItem)
  | create (kind : String)
  | alter (table : Option TableName) (foreignKeys : List (Option Ident × ForeignKeyClause))
  /-- A statement that is kept as text: its first word and the rest. -/
  | command (keyword : String) (rest : String)
  /-- A statement of another kind. -/
  | other (kind : String)

/-- Why a script is no list of statements. -/
inductive SyntaxCause
  | expected (symbol : String)
  /-- The bracket that closes a list is missing. -/
  | unclosed (symbol : String)
  /-- A word is missing behind what another word starts. -/
  | expectedAfter (what start : String)
  | leftover
  | missingOperand
  | invalidKeyOption
  | expectedTableName
  | expectedType
  | expectedEvent
  | signedOnly (type : String)
  /-- A function has more arguments than it can have. -/
  | tooManyArguments (given most : Nat)
  /-- Something else stands where an amount of time should. -/
  | expectedInterval (found : String)
  /-- A query has two clauses of one kind. -/
  | repeatedClause (word : String)
  /-- No statement stands behind the named ones. -/
  | nothingBehindNames
  /-- Named statements stand in front of something that knows no names. -/
  | namesNotAllowed (kind : String)
  | tooDeep

namespace SyntaxCause

def description : SyntaxCause → String
  | expected symbol => "Expecting " ++ symbol
  | unclosed symbol => "Expected " ++ symbol
  | expectedAfter what start => "Expected " ++ what ++ " after " ++ start
  | missingOperand => "Required expression missing"
  | leftover => "Invalid expression / Unexpected token"
  | invalidKeyOption => "Invalid key constraint"
  | expectedTableName => "Expected table name"
  | expectedType => "Expected type"
  | expectedEvent => "Expected DELETE or UPDATE"
  | signedOnly type => "Cannot convert " ++ type ++ " to unsigned."
  | tooManyArguments given most =>
    "The number of provided arguments (" ++ Text.natText given ++
      ") is greater than the maximum number of supported arguments (" ++ Text.natText most ++ ")"
  | expectedInterval found => "INTERVAL expression expected but got '" ++ found ++ "'"
  | repeatedClause word => "Found multiple '" ++ word ++ "' clauses"
  | nothingBehindNames => "Failed to parse any statement following CTE"
  | namesNotAllowed kind => kind ++ " does not support CTE"
  | tooDeep => "Too deeply nested"

/-- The report on the cause tells its place. -/
def isLocated : SyntaxCause → Bool
  | expectedInterval _ => false
  | _ => true

end SyntaxCause

/-- A cause with the offset of the character at which it was found. -/
structure SyntaxFault where
  cause : SyntaxCause
  offset : Nat

end SchemaDesk.Sql
