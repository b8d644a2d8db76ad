import SchemaDesk.Sql.Grammar.Source
/-!
Queries: selections of rows, rows of values, queries that are combined, and named queries in front of
others. The clauses of a query are written in one order, in whatever order they stand.
-/

namespace SchemaDesk.Sql.Grammar

open Reader

/-- The clauses that may stand behind the rows of a query. -/
inductive Clause
  | filter
  | groups
  | groupFilter
  | windows
  | windowFilter
  | order
  | limit
  | offset
  | fetch
  | locks
  deriving DecidableEq, Repr

namespace Clause

/-- All clauses in the order in which they are written. -/
def all : List Clause :=
  [filter, groups, groupFilter, windows, windowFilter, order, limit, offset, fetch, locks]

end Clause

/-- A clause of a condition behind its word. -/
def conditionClause (n : Nested) (kind front : String) : Reader Expr := do
  let comments ← waiting
  let e ← required n.condition
  notedBy comments (.clause kind [.text front, .value e])

/-- Groups for the sums over some of the keys. -/
def rollup (n : Nested) : Reader (Option (List Part)) := do
  let byWith ← keyword "WITH"
  match ← takeIf fun t => t.isKeyword "ROLLUP" || t.isKeyword "CUBE" with
  | none => return none
  | some t =>
    let w := Text.upper t.text
    if byWith then return some [.text (" WITH " ++ w)]
    let es ← wrapped (values n.sum)
    return some (.text (w ++ " (") :: Part.list es ++ [.text ")"])

/-- Sets of keys, each of which makes groups of its own. -/
def groupingSets (n : Nested) : Reader (Option (List Part)) := do
  if !(← keyword "GROUPING SETS") then return none
  let es ← wrapped (values n.condition)
  return some (.text "GROUPING SETS (" :: Part.list es ++ [.text ")"])

/-- The keys of groups behind `GROUP BY`. -/
def groupClause (n : Nested) : Reader Expr := do
  let comments ← waiting
  let flag ← (do
    if ← keyword "ALL" then return " ALL"
    if ← keyword "DISTINCT" then return " DISTINCT"
    return "")
  let es ← values do
    if ← nextIs fun t => t.isKeyword "ROLLUP" || t.isKeyword "CUBE" then return none
    n.condition
  let start ← get
  let extra ← orElse (rollup n) (groupingSets n)
  if extra.isNone then backTo start
  let keys : List Part := if es.isEmpty then [] else .text " " :: Part.list es
  let back : List Part := match extra with
    | none => []
    | some parts =>
      match parts with
      | [.text _] => parts
      | _ => .text (if es.isEmpty then " " else ", ") :: parts
  notedBy comments (.clause "group" (.text (" GROUP BY" ++ flag) :: keys ++ back))

/-- A window with a name. -/
def namedWindow (d : Dialect) (n : Nested) : Reader (Option Expr) := do
  match ← name with
  | none => return none
  | some i =>
    let _ ← keyword "ALIAS"
    some <$> windowOf d n "AS" (.name i)

/-- How many rows are taken, in the words of the standard. -/
def fetchClause (d : Dialect) (n : Nested) : Reader (List (Clause × Expr)) := do
  let direction := (← oneOf ["FIRST", "NEXT"]).getD "FIRST"
  let count ← n.value
  let percent ← (keyword "PERCENT" <||> mark "%")
  let rows ← oneOf ["ROW", "ROWS"]
  let _ ← word "ONLY"
  let ties ← words ["WITH", "TIES"]
  let amount : List Part := match count with
    | some e => [.text " ", .value e]
    | none => []
  let options :=
    if !percent && rows.isNone && !ties then " ROWS ONLY"
    else (if percent then " PERCENT" else "") ++ (if rows.isSome then " ROWS" else "") ++
      (if ties then " WITH TIES" else if rows.isSome then " ONLY" else "")
  match d with
  | .postgresql =>
    let e ← noted (.phrase "fetch" none (.text (" FETCH " ++ direction) :: amount ++ [.text options]))
    return [(.fetch, e)]
  | _ =>
    let e ← noted (.phrase "limit" none (.text " LIMIT" :: amount))
    return [(.limit, e)]

/-- The kinds of locks on the rows of a query. -/
def lockWords : List (List String × String) := [
  (["FOR", "UPDATE"], "FOR UPDATE"), (["FOR", "SHARE"], "FOR SHARE"),
  (["LOCK", "IN", "SHARE", "MODE"], "FOR SHARE"), (["FOR", "KEY", "SHARE"], "FOR KEY SHARE"),
  (["FOR", "NO", "KEY", "UPDATE"], "FOR NO KEY UPDATE")]

/-- The first kind of lock that stands here. -/
def lockKind : List (List String × String) → Reader (Option String)
  | [] => return none
  | (ws, written) :: rest => do
    if ← words ws then return some written
    lockKind rest

/-- A lock on the rows of a query. -/
def lock (n : Nested) : Reader (Option (List Part)) := do
  match ← lockKind lockWords with
  | none => return none
  | some kind =>
    let tables ← (do
      if ← word "OF" then values n.source else return [])
    let wait ← (do
      if ← word "NOWAIT" then return " NOWAIT"
      if ← words ["SKIP", "LOCKED"] then return " SKIP LOCKED"
      return "")
    let of : List Part := if tables.isEmpty then [] else .text " OF " :: Part.list tables
    return some (.text (" " ++ kind) :: of ++ [.text wait])

/-- A clause that starts with a token, behind the token. -/
def clauseOf (d : Dialect) (n : Nested) (t : Token) : Reader (List (Clause × Expr)) := do
  let one (c : Clause) (r : Reader Expr) : Reader (List (Clause × Expr)) := do return [(c, ← r)]
  match t.kind with
  | .keyword "WHERE" => one .filter (conditionClause n "where" " WHERE ")
  | .keyword "GROUP BY" => one .groups (groupClause n)
  | .keyword "HAVING" => one .groupFilter (conditionClause n "having" " HAVING ")
  | .keyword "QUALIFY" => one .windowFilter (conditionClause n "qualify" " QUALIFY ")
  | .keyword "WINDOW" =>
    one .windows do
      let es ← values (namedWindow d n)
      return .clause "windows" (.text " WINDOW " :: Part.list es)
  | .keyword "FETCH" => fetchClause d n
  | _ => return []

/-- The clause that stands here, and perhaps a second one that goes with it. -/
def clause (d : Dialect) (n : Nested) : Reader (List (Clause × Expr)) := do
  match ← orderClause d n true with
  | some e => return [(.order, e)]
  | none =>
    match ← rowLimit n with
    | some l => return (.limit, l.clause) :: (l.offset.map fun e => (Clause.offset, e)).toList
    | none =>
      match ← rowOffset n with
      | some e => return [(.offset, e)]
      | none =>
        match ← many (lock n) with
        | [] =>
          match ← takeIf fun t =>
            ["WHERE", "GROUP BY", "HAVING", "QUALIFY", "WINDOW", "FETCH"].any t.isKeyword with
          | some t => clauseOf d n t
          | none => return []
        | locks => return [(.locks, .phrase "locks" none locks.flatten)]

/-- All clauses that stand here, each at most once. -/
def clausesFrom (d : Dialect) (n : Nested) (found : List (Clause × Expr)) :
    Nat → Reader (List (Clause × Expr))
  | 0 => return found
  | fuel + 1 => do
    let start ← peek
    match ← clause d n, start with
    | [], _ => return found
    | more@((c, _) :: _), some t =>
      if found.any (·.1 == c) then faultAt t (.repeatedClause (Text.upper t.text))
      clausesFrom d n (found ++ more) fuel
    | more, none => return found ++ more

/-- Clauses in the order in which they are written. SQLite knows no locks. -/
def clauses (d : Dialect) (n : Nested) : Reader (List Part) := do
  let found ← clausesFrom d n [] ((← remaining) + 1)
  let known := found.filter fun (c, _) => !(d == .sqlite && c == .locks)
  return Clause.all.flatMap fun c => (known.filter (·.1 == c)).map fun (_, e) => .value e

/-- What may stand behind the rows of a query: rows that are joined, and clauses. -/
def modifiers (d : Dialect) (n : Nested) : Reader (List Part) := do
  let joins ← many (join d n)
  return joins.map Part.value ++ (← clauses d n)

/-- The words of MySQL that say how a selection is made. -/
def selectionWords : List String := [
  "HIGH_PRIORITY", "STRAIGHT_JOIN", "SQL_SMALL_RESULT", "SQL_BIG_RESULT", "SQL_BUFFER_RESULT",
  "SQL_NO_CACHE", "SQL_CALC_FOUND_ROWS"]

/-- Which of equal rows count once. -/
def distinctRows (n : Nested) : Reader (List Part) := do
  if !(← keyword "DISTINCT") then return []
  if ← keyword "ON" then
    let es ← wrapped (values n.condition)
    return .text " DISTINCT ON (" :: Part.list es ++ [.text ")"]
  return [.text " DISTINCT"]

/-- A table that takes the rows of a selection. -/
def target : Reader (List Part) := do
  if !(← keyword "INTO") then return []
  let temporary ← keyword "TEMPORARY"
  let unlogged ← word "UNLOGGED"
  let _ ← keyword "TABLE"
  let t ← tableName
  let kind := if temporary then " TEMPORARY" else if unlogged then " UNLOGGED" else ""
  return [.text (" INTO" ++ kind ++ " "), .value (.column (t.qualifiers.map Expr.name) (.name t.name))]

/-- Where the rows of a selection come from, behind the word `FROM`. -/
def origin (d : Dialect) (n : Nested) : Reader (List Part) := do
  if !(← keyword "FROM") then return []
  let comments ← waiting
  let e ← required (source d n)
  return [.value (← notedBy comments (.clause "from" [.text " FROM ", .value e]))]

/-- A selection of rows behind the word `SELECT`. -/
def selection (d : Dialect) (n : Nested) : Reader Expr := do
  let comments ← waiting
  let distinct ← (do
    if ← secondIs (·.isMark ".") then return []
    let _ ← keyword "ALL"
    distinctRows n)
  let how ← (do
    if d == .mysql then
      return (← many (oneOf selectionWords)).map fun w => Part.text (" " ++ w)
    else return [])
  let es ← values (named d n)
  let _ ← takeComments
  let columns : List Part := if es.isEmpty then [] else .text " " :: Part.list es
  let into ← target
  let rows ← origin d n
  let rest ← modifiers d n
  return Expr.note comments
    (.clause "select" (.text "SELECT" :: distinct ++ how ++ columns ++ into ++ rows ++ rest))

/-- A row of values. -/
def valueRow (d : Dialect) (n : Nested) : Reader (Option Expr) := do
  if ← mark "(" then
    let es ← values do
      if ← keyword "DEFAULT" then return some (.word "DEFAULT")
      named d n
    expectMark ")"
    some <$> noted (.tuple es)
  else
    match ← named d n with
    | some e => some <$> noted (.tuple [e])
    | none => return none

/-- Rows of values behind the word `VALUES`. -/
def valueRows (d : Dialect) (n : Nested) : Reader Expr := do
  let rows ← values (valueRow d n)
  noted (.clause "values" (.text "VALUES " :: Part.list rows))

/-- A query without combined ones, or one in parentheses. -/
def operandQuery (d : Dialect) (n : Nested) : Reader (Option Expr) := do
  if ← keyword "SELECT" then return some (← selection d n)
  if ← (nextIsKeyword "VALUES" <&&> secondIs (·.isMark "(")) then
    let _ ← next
    return some (← valueRows d n)
  if ← mark "(" then
    let comments ← waiting
    match ← orElse n.query (do if ← nextIsMark "(" then n.source else return none) with
    | none => fault (.expected ")")
    | some q =>
      let inner ← n.joined q
      expectMark ")"
      return some (← noted (.subquery (inner.note comments)))
  return none

/-- A query whose rows are taken together with the ones before. -/
def combination (d : Dialect) (n : Nested) (l : Expr) : Reader (Option Expr) := do
  match ← takeIf fun t => ["UNION", "EXCEPT", "INTERSECT"].any t.isKeyword with
  | none => return none
  | some t =>
    let distinct ← keyword "DISTINCT"
    let all ← (pure !distinct <&&> keyword "ALL")
    let w := Text.upper t.text
    let written := w ++ if all && (d != .sqlite || w == "UNION") then " ALL" else ""
    let r ← (do if ← nextIsKeyword "WITH" then n.query else operandQuery d n)
    let symbol : Part := .value (Expr.note t.comments (.clause "operator" [.text written]))
    return some (.clause (Text.lower w) (match r with
      | some r => [.value l, .text " ", symbol, .text " ", .value r]
      | none => [.value l, .text " ", symbol]))

/-- A query with all that is combined with it. -/
def combined (d : Dialect) (n : Nested) (q : Expr) : Reader Expr := extend (combination d n) q

/-- A query in parentheses, or a table, with what is combined with it or joined to it. -/
def joined (d : Dialect) (n : Nested) (e : Expr) : Reader Expr := do
  let whole ← combined d n e
  let rest ← modifiers d n
  if rest.isEmpty then return whole
  let written := .value whole :: rest
  return if whole.isQuery then .clause whole.kind written
    else .phrase whole.kind whole.heart? written

/-- A query with a name. `statement` reads what stands in its parentheses. -/
def namedQuery (d : Dialect) (n : Nested) (statement : Reader Expr) : Reader (Option Expr) := do
  match ← tableAlias d n with
  | none => return none
  | some a =>
    if !(← keyword "ALIAS") then return none
    let comments ← waiting
    let kind ← (do
      if ← words ["NOT", "MATERIALIZED"] then return "NOT MATERIALIZED "
      if ← word "MATERIALIZED" then return "MATERIALIZED "
      return "")
    let q ← wrapped statement
    some <$> notedBy comments
      (.phrase "cte" none [.value a, .text (" AS " ++ kind ++ "("), .value q, .text ")"])

/-- Named queries behind the word `WITH`. -/
def namedQueries (d : Dialect) (n : Nested) (statement : Reader Expr) : Reader Expr := do
  let comments ← waiting
  let recursive ← keyword "RECURSIVE"
  let es ← values (namedQuery d n statement)
  notedBy comments
    (.clause "with" (.text (if recursive then "WITH RECURSIVE " else "WITH ") :: Part.list es))

/-- A query with the named queries in front of it. -/
def withNamed (named : Expr) (q : Expr) : Expr :=
  .clause q.kind [.value named, .text " ", .value q]

/-- A query without parentheses. -/
def query (d : Dialect) (n : Nested) : Reader (Option Expr) := do
  let start ← get
  let named ← (do
    if ← keyword "WITH" then some <$> namedQueries d n (required (orElse (named d n) n.query)) else return none)
  match named with
  | some named =>
    match ← orElse n.query (do if ← nextIsMark "(" then operandQuery d n else return none) with
    | some q => return some (withNamed named q)
    | none =>
      backTo start
      return none
  | none =>
    if ← nextIsMark "(" then return none
    match ← operandQuery d n with
    | some q => some <$> combined d n q
    | none => return none

end SchemaDesk.Sql.Grammar
