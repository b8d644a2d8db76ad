import SchemaDesk.Sql.Grammar.Rule
/-!
The items of the definition of a table: columns with their types and rules, and the rules of the table.
-/

namespace SchemaDesk.Sql.Grammar

open Reader

/-- A type behind a computed column, or the word for the type of the value. -/
def computedType (n : Nested) : Reader Unit := do
  if !(← word "AUTO") then
    let _ ← n.type false true

/-- A column that is computed from others. -/
def computedColumn (d : Dialect) (n : Nested) (typed : Bool) :
    Reader (Option ColumnConstraint) := do
  if typed && !(← secondIs (·.isMark "(")) then return none
  if !(← keyword "ALIAS") then return none
  let value ← required n.condition
  let c : Computation ← (do
    if typed then
      return { value, stored := (← oneOf ["STORED", "VIRTUAL"]) == some "STORED" }
    else
      let stored ← word "PERSISTED"
      computedType n
      let isRequired ← pair (·.isKeyword "NOT") (·.kind == .type "NULL")
      return { value, stored, required := isRequired })
  return some { name := none, rule := some (c.rule d), comments := ← takeComments }

/-- What stands behind the name of a column. -/
def columnItem (d : Dialect) (n : Nested) (columns : ColumnList) (e : Expr) : Reader TableItem := do
  let type ← n.type true true
  if ← words ["FOR", "ORDINALITY"] then return .column e none []
  let first ← computedColumn d n type.isSome
  let constraints := first.toList ++ (← many (columnConstraint d n columns))
  if type.isNone && constraints.isEmpty then return .value none e
  return .column e type constraints

/-- The items between two commas of a definition. -/
def tableItems (d : Dialect) (n : Nested) (columns : ColumnList) :
    Reader (Option (List TableItem)) := do
  match ← tableRules d n columns with
  | some rules => return some rules
  | none =>
    match ← field d n with
    | some e => return some [← columnItem d n columns e]
    | none => return none

/-- The comments of a comma belong to the item in front of it. They are kept where they count. -/
def withComments : List TableItem → Reader (List TableItem)
  | [.rule none (.foreignKey k)] => do
    return [.rule none (.foreignKey { k with comments := k.comments ++ (← takeComments) })]
  | [.value none e] => do return [.value none (← noted e)]
  | group => do
    let _ ← takeComments
    return group

/-- The items of a definition between parentheses, with the comments behind them. A query or another
parenthesis there is none. -/
def definition (d : Dialect) (n : Nested) (columns : ColumnList) :
    Reader (Option (List TableItem × List String)) := do
  let start ← get
  if !(← mark "(") then return none
  if ← nextIs fun t => t.isMark "(" || t.isKeyword "WITH" || t.isKeyword "SELECT" then
    backTo start
    return none
  let item := tableItems d n columns
  let groups ← moreItems item withComments (← item) (← remaining)
  expectMark ")"
  return some (groups.flatten, ← takeComments)

/-- The name that a rule of a table has as a part of a list of columns. -/
def ruleHeart : Rule → Option String
  | .check e => e.heart?
  | .unique i _ => i.bind fun i => Expr.someName i.text
  | .index i _ => i.bind fun i => Expr.someName i.text
  | .references r => Expr.someName r.table.name.text
  | .default e => e.heart?
  | .other _ heart _ => heart
  | _ => none

/-- Words behind a text, each with a space in front. -/
def spacedBehind (texts : List String) : String := String.join (texts.map (" " ++ ·))

/-- An item as a part of a list of columns. -/
def listed (d : Dialect) : TableItem → Expr
  | .value none e => e
  | .value (some i) e =>
    .phrase "constraint" (Expr.someName i.text) [.text ("CONSTRAINT " ++ i.render d ++ " "), .value e]
  | .column name type constraints =>
    .phrase "columndef" name.heart? (.value name ::
      (match type with
        | some t => [.text " ", .value (.typed t)]
        | none => []) ++
      [.text (spacedBehind (constraints.filterMap fun c => (c.described d).map (·.2)))])
  | .rule i r =>
    let front := match i with
      | some i => "CONSTRAINT " ++ i.render d ++ " "
      | none => ""
    .phrase "constraint" (match i with
      | some i => Expr.someName i.text
      | none => ruleHeart r) [.text (front ++ (r.described d).2)]

/-- Lists of columns inside of the items of such lists, at most so many times. -/
def columnGroup (d : Dialect) (n : Nested) : Nat → ColumnList
  | 0 => fault .tooDeep
  | k + 1 => do
    match ← definition d n (columnGroup d n k) with
    | some (group, comments) => return some { columns := group.map (listed d), comments }
    | none => return none

end SchemaDesk.Sql.Grammar
