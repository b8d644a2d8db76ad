import SchemaDesk.Sql.Grammar.Order
/-!
What may stand behind a function of many rows: the order of the rows in a group, a condition on them,
and the window of rows that the function looks at.
-/

namespace SchemaDesk.Sql.Grammar

open Reader

/-- One end of a frame of rows, in words. -/
def frameEnd (n : Nested) : Reader (List Part) := do
  let _ ← keyword "BETWEEN"
  let amount : List Part ← (do
    if ← word "UNBOUNDED" then return [.text "UNBOUNDED"]
    if ← words ["CURRENT", "ROW"] then return [.text "CURRENT ROW"]
    return ((← n.sum).map Part.value).toList)
  match ← takeIf fun t => t.reads "PRECEDING" || t.reads "FOLLOWING" with
  | some t => return amount ++ [.text (" " ++ t.text)]
  | none => return amount

/-- The rows around the current one that count. -/
def frame (n : Nested) : Reader (Option Expr) := do
  match ← takeIf fun t => t.isKeyword "ROWS" || t.isKeyword "RANGE" with
  | none => return none
  | some t =>
    let _ ← keyword "BETWEEN"
    let start ← frameEnd n
    let stop ← (do if ← keyword "AND" then frameEnd n else return [.text "CURRENT ROW"])
    let _ ← takeComments
    return some (.phrase "windowspec" none
      (.text (t.text ++ " BETWEEN ") :: start ++ .text " AND " :: stop))

/-- The groups into which rows are divided. -/
def partitions (n : Nested) : Reader (List Expr) := do
  if ← keyword "PARTITION BY" then values n.condition else return []

/-- Expressions with single spaces between them. -/
def spaced : List Expr → List Part
  | [] => []
  | [e] => [.value e]
  | e :: es => .value e :: .text " " :: spaced es

/-- What a window is described by: a name, groups, an order and a frame. -/
structure WindowBody where
  base : Option Ident
  details : List Expr

/-- A name alone needs no parentheses. -/
def WindowBody.written (w : WindowBody) : List Part :=
  let all := (w.base.map Expr.name).toList ++ w.details
  if w.base.isSome && w.details.isEmpty then spaced all
  else .text "(" :: spaced all ++ [.text ")"]

/-- A window behind its opening parenthesis. -/
def windowBody (d : Dialect) (n : Nested) : Reader WindowBody := do
  let base ← nameAmong fun t => isNameWord t && !(t.isKeyword "ROWS" || t.isKeyword "RANGE")
  let groups ← partitions n
  let before ← get
  let order ← orderKeys d n true
  let rows ← frame n
  let order ← (do
    if d == .mysql && rows.isSome then
      backTo before
      let order ← orderKeys d n false
      let _ ← frame n
      return order
    return order)
  expectMark ")"
  let grouped : List Expr :=
    if groups.isEmpty then []
    else [.phrase "partition" none (.text "PARTITION BY " :: Part.list groups)]
  let sorted : List Expr := match order with
    | some (_, keys) => [.phrase "order" none (.text "ORDER BY " :: Part.list keys)]
    | none => []
  return { base, details := grouped ++ sorted ++ rows.toList }

/-- The window behind `OVER`, by its name or in parentheses. -/
def windowOf (d : Dialect) (n : Nested) (word : String) (e : Expr) : Reader Expr := do
  let (comments, bare) := e.takeNotes
  let front : List Part := [.value bare, .text (" " ++ word ++ " ")]
  if ← mark "(" then
    let body ← windowBody d n
    notedBy comments (.phrase "window" bare.heart? (front ++ body.written))
  else
    let i ← name
    notedBy comments (.phrase "window" bare.heart? (front ++ (i.map fun i => .value (.name i)).toList))

/-- Whether rows without a value count, behind a function. -/
def nullTreatment (e : Expr) : Reader Expr := do
  if ← words ["IGNORE", "NULLS"] then
    return ← noted (.phrase "ignorenulls" e.heart? [.value e, .text " IGNORE NULLS"])
  if ← words ["RESPECT", "NULLS"] then
    return ← noted (.phrase "respectnulls" e.heart? [.value e, .text " RESPECT NULLS"])
  return e

/-- A function with everything that may stand behind its arguments. -/
def withWindow (d : Dialect) (n : Nested) (e : Expr) : Reader Expr := do
  let grouped ← (do
    if ← words ["WITHIN", "GROUP"] then
      expectMark "("
      let keys ← orderKeys d n true
      expectMark ")"
      match keys with
      | some (comments, keys) =>
        let order := Expr.note comments (.clause "order" (.text "ORDER BY " :: Part.list keys))
        noted (.phrase "withingroup" e.heart?
          [.value e, .text " WITHIN GROUP (", .value order, .text ")"])
      | none => return e
    else return e)
  let filtered ← (do
    if ← pair (·.isKeyword "FILTER") (·.isMark "(") then
      let _ ← keyword "WHERE"
      let comments ← waiting
      let c ← required n.condition
      let clause ← notedBy comments (.clause "where" [.text "WHERE ", .value c])
      let filter ← noted (.phrase "filter" grouped.heart?
        [.value grouped, .text " FILTER(", .value clause, .text ")"])
      expectMark ")"
      return filter
    else return grouped)
  let treated ← nullTreatment filtered
  match ← takeIf (·.isKeyword "OVER") with
  | some t => windowOf d n (Text.upper t.text) treated
  | none => return treated

end SchemaDesk.Sql.Grammar
