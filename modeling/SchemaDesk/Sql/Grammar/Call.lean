import SchemaDesk.Sql.Grammar.Arguments
/-!
Calls of functions, choices between values, and the other expressions that start with a word.
-/

namespace SchemaDesk.Sql.Grammar

open Reader

/-- Known words that may be the name of a function. -/
def functionWords : List String := [
  "ALL", "ANY", "ARRAY", "COLLATE", "COMMAND", "CURRENT_DATE", "CURRENT_SCHEMA", "CURRENT_TIME",
  "CURRENT_TIMESTAMP", "CURRENT_USER", "EXISTS", "FILTER", "FIRST", "FORMAT", "GLOB", "ILIKE",
  "INDEX", "INSERT", "ISNULL", "LEFT", "LIKE", "LOCALTIME", "LOCALTIMESTAMP", "MERGE", "NEXT",
  "OFFSET", "PRIMARY KEY", "RANGE", "REPLACE", "RIGHT", "RLIKE", "ROW", "SEQUENCE", "SESSION_USER",
  "SOME", "TABLE", "TRUNCATE", "UNNEST", "WINDOW", "XOR"]

/-- Known words that may be the name of a function in MySQL only. -/
def mysqlFunctionWords : List String := ["DATABASE", "SCHEMA", "VALUES", "CHARACTER SET", "SET"]

/-- The token may be the name of a function. -/
def isFunctionWord (d : Dialect) (t : Token) : Bool :=
  match t.kind with
  | .word => true
  | .quoted => true
  | .type _ => true
  | .keyword name =>
    functionWords.contains name || (d == .mysql && mysqlFunctionWords.contains name)
  | .mark symbol => d == .mysql && symbol == "%"
  | _ => false

/-- A choice by conditions, behind the word `CASE`. -/
def caseOf (n : Nested) : Reader (Option Expr) := do
  if ← nextIsMark "." then return none
  let comments ← waiting
  let subject ← n.condition
  let branches ← many do
    if ← keyword "WHEN" then
      let c ← required n.condition
      let _ ← keyword "THEN"
      let v ← required n.condition
      let _ ← takeComments
      return some (c, v)
    return none
  let otherwise ← (do if ← keyword "ELSE" then n.condition else return none)
  if !(← keyword "END") then faultAtLast (.expectedAfter "END" "CASE")
  some <$> notedBy comments
    (Function.ofParts "case" subject (Function.caseParts subject branches otherwise))

/-- A choice between two values, behind the word `IF`. -/
def ifOf (d : Dialect) (n : Nested) : Reader (Option Expr) := do
  if ← mark "(" then
    let es ← values (namedByWord d n)
    let e ← built (Function.byCondition d es)
    expectMark ")"
    return some e
  match ← n.condition with
  | none => return none
  | some c =>
    let _ ← keyword "THEN"
    let v ← required n.condition
    let w ← (do if ← keyword "ELSE" then n.condition else return none)
    let _ ← keyword "END"
    some <$> noted (Function.choice d c v w)

/-- Any of some values, behind the word for it. Parentheses close up with the word. -/
def anyOf (n : Nested) : Reader Expr := do
  let e ← required n.sum
  let word := match e.bare with
    | .paren _ => "ANY"
    | _ => "ANY "
  noted (.phrase "any" e.heart? [.text word, .value e])

/-- The next value of a sequence, behind the first word for it. -/
def nextValue (d : Dialect) (n : Nested) : Reader (Option Expr) := do
  if !(← words ["VALUE", "FOR"]) then return none
  let sequence ← required n.column
  let window ← (do
    if ← keyword "OVER" then
      let order ← wrapped (orderClause d n true)
      return Part.text " OVER (" :: (order.map Part.value).toList ++ [.text ")"]
    return [])
  some <$> noted (Function.ofParts "nextvaluefor" (some sequence)
    (.text "NEXT VALUE FOR " :: .value sequence :: window))

/-- The expressions that start with a word and need no parentheses. -/
def wordedValue? (d : Dialect) (n : Nested) (name : String) : Option (Reader (Option Expr)) :=
  match name with
  | "ANY" => some (some <$> anyOf n)
  | "CASE" => some (caseOf n)
  | "IF" => some (ifOf d n)
  | "NEXT" => some (nextValue d n)
  | _ => none

/-- Names in front of an arrow, in parentheses if there are several. -/
def boundNames : Reader (List Ident) := do
  let start ← get
  if ← mark "(" then
    let names ← items anyName
    if ← mark ")" then return names
    backTo start
    return []
  return (← anyName).toList

/-- A function of some names, or a value for the name of an argument. -/
def arrow (n : Nested) : Reader (Option Expr) := do
  let start ← get
  match ← boundNames with
  | [] =>
    backTo start
    return none
  | i :: rest =>
    if ← mark "->" then
      let body ← required n.condition
      let names := Part.list ((i :: rest).map Expr.name)
      let front := if rest.isEmpty then names else .text "(" :: names ++ [.text ")"]
      return some (← noted
        (.phrase "lambda" body.heart? (front ++ [.text " -> ", .value body])))
    if ← mark "=>" then
      let e ← required n.condition
      return some (← noted (.binary Operator.keyword [] (.word i.text) e))
    backTo start
    return none

/-- A query or an expression, with further queries joined to it. `aliased` admits a name behind the
word `AS`. -/
def queryOrValue (d : Dialect) (n : Nested) (aliased : Bool) : Reader (Option Expr) := do
  match ← n.query with
  | some q => return some q
  | none =>
    match ← (if aliased then namedByWord d n else n.condition) with
    | none => return none
    | some e =>
      if ← nextIs fun t => ["UNION", "EXCEPT", "INTERSECT"].any t.isKeyword then
        some <$> n.joined e
      else return some e

/-- An argument of a function, with the order and the count of the rows that it takes. -/
def argument (d : Dialect) (n : Nested) (aliased : Bool) : Reader (Option Expr) := do
  match ← arrow n with
  | some e => return some e
  | none =>
    let found ← (do
      if ← keyword "DISTINCT" then
        let es ← values n.condition
        some <$> noted (.distinct es)
      else queryOrValue d n aliased)
    match found with
    | none => return none
    | some e =>
      let ordered ← inOrder d n (← nullTreatment e)
      match ← rowLimit n with
      | some limit => return some (.phrase "limit" ordered.heart? [.value ordered, .value limit.clause])
      | none => return some ordered

/-- Words that compare a value with all or with some values of a query. -/
def quantified? (t : Token) (q : Expr) : Option Expr :=
  let wraps : Bool := match q.bare with
    | .paren _ | .tuple _ => false
    | _ => true
  match t.kind with
  | .keyword "EXISTS" =>
    some (Function.ofParts "exists" (some q) [.text "EXISTS(", .value q, .text ")"])
  | .keyword "ALL" =>
    some (.phrase "all" q.heart?
      (if wraps then [.text "ALL (", .value q, .text ")"] else [.text "ALL ", .value q]))
  | .keyword "SOME" =>
    some (.phrase "any" q.heart?
      (if q.isQuery then [.text "ANY(", .value q, .text ")"]
      else [.text (if wraps then "ANY " else "ANY"), .value q]))
  | _ => none

/-- A query, or a value in parentheses behind `LIKE`, that such a word compares with. -/
def quantified (n : Nested) (t : Token) (afterLike : Bool) (opening : Cursor) :
    Reader (Option Expr) := do
  if (quantified? t .null).isNone then return none
  if ← nextIs fun t => t.isKeyword "SELECT" || t.isKeyword "WITH" then
    match ← n.query with
    | none => return none
    | some q =>
      expectMark ")"
      return ← (quantified? t q).mapM (notedBy t.comments)
  if afterLike then
    returnTo opening
    match ← n.sum with
    | none => return none
    | some e => return ← (quantified? t e).mapM (notedBy t.comments)
  return none

/-- A call behind its opening parenthesis, up to the closing one. `anonymous` takes the name as it is
written. -/
def callBody (d : Dialect) (n : Nested) (t : Token) (anonymous : Bool) : Reader Expr := do
  let name := Text.upper t.text
  let own := if anonymous then none else argumentsOf? d n (argument d n false) name
  let known := if anonymous then none else Function.builder? d name
  let e ← (match own, known with
    | some r, _ => r
    | none, some build => do built (build (← values (argument d n (name == "STRUCT"))))
    | none, none => do
      let es ← values (argument d n true)
      noted (.call { text := t.text, quoted := t.kind == .quoted } es))
  closeBehind (e.note t.comments)

/-- A call of a function, or an expression that starts with a word. `anyWord` admits every word that
is not reserved as the name. -/
def plainCall (d : Dialect) (n : Nested) (anyWord anonymous : Bool) : Reader (Option Expr) := do
  match ← peek with
  | none => return none
  | some t =>
    let start ← get
    let name := Text.upper t.text
    let isPlain := t.kind != .quoted && t.kind != .text
    match (if isPlain then wordedValue? d n name else none) with
    | some r =>
      let _ ← next
      match ← r with
      | some e => some <$> withWindow d n e
      | none =>
        backTo start
        return none
    | none =>
      if !(← secondIs (·.isMark "(")) then
        if t.isKeyword name && (Function.bareNames d).contains name then
          let _ ← next
          return some (← noted (← built (Function.current d name [])))
        return none
      if anyWord && isReserved t || !anyWord && !isFunctionWord d t then return none
      let afterLike ← lastIs fun t => t.isKeyword "LIKE" || t.isKeyword "ILIKE"
      let _ ← next
      let opening ← get
      let _ ← next
      match ← (if anonymous then pure none else quantified n t afterLike opening) with
      | some e => return some e
      | none => some <$> (callBody d n t anonymous >>= withWindow d n)

/-- A call of a function, which may stand between braces. -/
def call (d : Dialect) (n : Nested) (anyWord anonymous : Bool) : Reader (Option Expr) := do
  let braced ← pair (·.isMark "\x7b") (·.caseless == "FN")
  let e ← plainCall d n anyWord anonymous
  if braced then
    let _ ← mark "\x7d"
  return e

end SchemaDesk.Sql.Grammar
