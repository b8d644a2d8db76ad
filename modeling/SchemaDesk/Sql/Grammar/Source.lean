import SchemaDesk.Sql.Grammar.Comparison
/-!
Where the rows of a query come from: tables, functions, queries in parentheses, and rows that are
joined with others.
-/

namespace SchemaDesk.Sql.Grammar

open Reader

/-- Words that may not name a table, because they start what may stand behind one. -/
def clauseWords (d : Dialect) : List String :=
  ["ANTI", "ASOF", "FULL", "LEFT", "LOCK", "NATURAL", "RIGHT", "SEMI", "SET", "WINDOW"] ++
    if d == .mysql then ["USE"] else []

/-- The token may name a table. -/
def isTableNameWord (d : Dialect) (t : Token) : Bool :=
  isNameWord t && !(clauseWords d).any t.isKeyword

/-- A name for a column of a table, perhaps with its type. -/
def columnName (n : Nested) : Reader (Option Expr) := do
  match ← anyName with
  | none => return none
  | some i =>
    match ← n.type true true with
    | some t => return some (.phrase "columndef" (some i.text) [.value (.name i), .text " ",
        .value (.typed t)])
    | none => return some (.name i)

/-- Another name for a table, with names for its columns. SQLite knows no such columns. -/
def tableAlias (d : Dialect) (n : Nested) : Reader (Option Expr) := do
  if ← startsLimit n then return none
  let byWord ← keyword "ALIAS"
  let found ← (if byWord then anyName else nameAmong (isTableNameWord d))
  match ← orElse (pure found) textName with
  | none => return none
  | some i =>
    let start ← get
    let columns ← (do
      if ← mark "(" then
        let columns ← values (columnName n)
        if columns.isEmpty then
          backTo start
          return []
        expectMark ")"
        return columns
      else return [])
    let list : List Part :=
      if columns.isEmpty || d == .sqlite then [] else .text "(" :: Part.list columns ++ [.text ")"]
    let e ← noted (.phrase "tablealias" (some i.text) (.value (.name { i with comments := [] }) :: list))
    return some (e.note i.comments)

/-- Another name behind what it stands for. -/
def aliasParts (a : Option Expr) : List Part :=
  match a with
  | some e => [.text " AS ", .value e]
  | none => []

/-- A part of the name of a table, which may be a call. -/
def sourcePart (d : Dialect) (n : Nested) : Reader (Option Expr) := do
  let called ← (do if ← secondIs (·.isMark "(") then call d n false false else return none)
  match called with
  | some e => return some e
  | none => orElse (do return (← tablePart).map Expr.name) (parameter d)

/-- A hint at an index of a table, in MySQL. -/
def indexHint : Reader (Option (List Part)) := do
  match ← takeIf fun t => t.isKeyword "USE" || t.isKeyword "FORCE" || t.isKeyword "IGNORE" with
  | none => return none
  | some t =>
    let _ ← takeIf fun t => t.isKeyword "INDEX" || t.isKeyword "KEY"
    let target ← (do
      if ← keyword "FOR" then return " FOR " ++ Text.upper ((← anyWord).getD "") else return "")
    let names ← wrapped (items anyName)
    return some (.text (" " ++ Text.upper t.text ++ " INDEX" ++ target ++ " (") ::
      Part.list (names.map Expr.name) ++ [.text ")"])

/-- Which index of a table is used. -/
def indexChoice (d : Dialect) : Reader (List Part) := do
  match d with
  | .mysql => return (← many indexHint).flatten
  | .sqlite =>
    if ← keyword "INDEXED BY" then
      let i ← required name
      return [.text " INDEXED BY ", .value (.name i)]
    if ← words ["NOT", "INDEXED"] then return [.text " NOT INDEXED"]
    return []
  | .postgresql => return []

/-- A table or a call that rows come from. -/
def namedSource (d : Dialect) (n : Nested) : Reader Expr := do
  let only ← (pure (d == .postgresql) <&&> keyword "ONLY")
  match ← sourcePart d n with
  | none => fault .expectedTableName
  | some first =>
    let rest ← many do
      if ← mark "." then
        return some ((← sourcePart d n).getD (.name { text := "" }))
      return none
    let last := rest.getLast?.getD first
    let (comments, bare) := last.takeNotes
    let parts := (first :: rest).dropLast ++ [bare]
    let table ← notedBy comments (.phrase "table" bare.heart?
      (List.flatten ((parts.map fun e => [Part.value e]).intersperse [.text "."])))
    let _ ← mark "*"
    let a ← tableAlias d n
    let choice ← indexChoice d
    let ordinal ← (do
      if ← pair (·.isKeyword "WITH") (·.isKeyword "ORDINALITY") then
        return .text " WITH ORDINALITY" :: aliasParts (← tableAlias d n)
      else return [])
    let front : List Part := if only then [.text "ONLY "] else []
    let (comments, bare) := table.takeNotes
    return Expr.note comments (.phrase "table" table.heart?
      (front ++ .value bare :: aliasParts a ++ choice ++ ordinal))

/-- The rows of an array. -/
def unnested (d : Dialect) (n : Nested) : Reader (Option Expr) := do
  if !(← (nextIsKeyword "UNNEST" <&&> secondIs (·.isMark "("))) then return none
  let _ ← next
  let es ← wrapped (values n.equality)
  let ordinal ← pair (·.isKeyword "WITH") (·.isKeyword "ORDINALITY")
  let a ← tableAlias d n
  some <$> noted (.phrase "unnest" none (Function.callParts "UNNEST" es ++
    (if ordinal then [.text " WITH ORDINALITY"] else []) ++ aliasParts a))

/-- A query or joined tables in parentheses. -/
def wrappedSource (d : Dialect) (n : Nested) : Reader (Option Expr) := do
  if !(← mark "(") then return none
  let comments ← waiting
  match ← orElse n.query n.source with
  | none => fault (.expected ")")
  | some e =>
    let inner ← n.joined e
    expectMark ")"
    let a ← tableAlias d n
    some <$> noted (.phrase "subquery" inner.heart?
      (.text "(" :: .value (inner.note comments) :: .text ")" :: aliasParts a))

/-- Rows that depend on the ones before. -/
def lateral (d : Dialect) (n : Nested) : Reader (Option Expr) := do
  if !(← keyword "LATERAL") then return none
  let inner ← orElse (wrappedSource d n) (orElse (unnested d n) (some <$> namedSource d n))
  match inner with
  | none => return none
  | some e =>
    let a ← tableAlias d n
    some <$> noted (.phrase "lateral" e.heart? (.text "LATERAL " :: .value e :: aliasParts a))

/-- Rows of values in the place of a table. -/
def valueSource (d : Dialect) (n : Nested) : Reader (Option Expr) := do
  if !(← (nextIsKeyword "VALUES" <&&> secondIs (·.isMark "("))) then return none
  match ← n.query with
  | none => return none
  | some e =>
    let a ← tableAlias d n
    return some (.phrase "values" none (.text "(" :: .value e :: .text ")" :: aliasParts a))

/-- A table, a call or a query that rows come from. -/
def source (d : Dialect) (n : Nested) : Reader (Option Expr) :=
  orElse (lateral d n) (orElse (unnested d n) (orElse (valueSource d n)
    (orElse (wrappedSource d n) (some <$> namedSource d n))))

/-- How rows are joined: the words in front of `JOIN`. -/
def joinWords : Reader (List String) := do
  let method ← oneOf ["ASOF", "NATURAL"]
  let side ← oneOf ["FULL", "LEFT", "RIGHT"]
  let kind ← oneOf ["ANTI", "CROSS", "INNER", "OUTER", "SEMI"]
  return method.toList ++ side.toList ++ kind.toList

/-- What the rows that are joined have in common. -/
def joinCondition (n : Nested) : Reader (List Part) := do
  if ← keyword "ON" then
    return [.text " ON ", .value (← required n.condition)]
  if ← keyword "USING" then
    let names ← wrapped (items anyName)
    return .text " USING (" :: Part.list (names.map Expr.name) ++ [.text ")"]
  return []

/-- Rows that are joined with the ones before, behind a comma or the words for it. -/
def join (d : Dialect) (n : Nested) : Reader (Option Expr) := do
  if ← mark "," then
    let found ← attempt (source d n)
    return ← found.mapM fun e => noted (.clause "join" [.text ", ", .value e])
  let start ← get
  let front ← joinWords
  let straight ← keyword "STRAIGHT_JOIN"
  if !(← (pure straight <||> keyword "JOIN")) then
    backTo start
    return none
  let comments ← waiting
  let e ← required (source d n)
  let condition ← joinCondition n
  let words := " ".intercalate (front ++ [if straight then "STRAIGHT_JOIN" else "JOIN"])
  let symbol :=
    if front.isEmpty && !straight && condition.isEmpty then ", " else " " ++ words ++ " "
  some <$> notedBy comments (.clause "join" (.text symbol :: .value e :: condition))

/-- The rows of a query, with all that is joined to them. -/
def sources (d : Dialect) (n : Nested) : Reader (List Part) := do
  let first ← required (source d n)
  let more ← many (join d n)
  return .value first :: more.map Part.value

end SchemaDesk.Sql.Grammar
