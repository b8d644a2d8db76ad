import SchemaDesk.Sql.Function.Signature
/-!
Functions of the rows of a group that are written in different ways: variances, counts by a condition,
the median, any value, and texts or arrays of all values.
-/

namespace SchemaDesk.Sql.Function

/-- A function of one value under a name of the dialect. -/
def renamed (kind name : String) : Builder := fun es => atMost 1 es (named kind name es[0]? es)

/-- How many rows satisfy a condition. Only MySQL has a function for it. -/
def countIf (d : Dialect) : Builder := fun es =>
  match d, es with
  | .mysql, es => atMost 1 es (named "countif" "COUNT_IF" es[0]? es)
  | _, c :: _ =>
    let counted := match c.bare with
      | .distinct (e :: _) => e
      | _ => c
    atMost 1 es (ofParts "countif" (some c)
      (callParts "SUM" [choice d counted (.number "1") (some (.number "0"))]))
  | _, [] => .ok (named "countif" "COUNT_IF" none [])

/-- The value below which a share of all values lies. PostgreSQL asks for an order behind the
function. -/
def percentile (d : Dialect) (kind name : String) : Builder
  | [e, share] =>
    match d with
    | .postgresql =>
      .ok (.known kind (share.heart?)
        (callParts name [share] ++ [.text " WITHIN GROUP (ORDER BY ", .value e, .text ")"]))
    | _ => .ok (named kind name (some e) [e, share])
  | es => atMost 2 es (named kind name es[0]? es)

/-- The value in the middle. -/
def median (d : Dialect) : Builder := fun es =>
  match es with
  | e :: _ => do
    let written ← percentile d "median" "PERCENTILE_CONT" [e, .number "0.5"]
    atMost 1 es (ofParts "median" (some e) [.value written])
  | [] => .ok (named "median" "MEDIAN" none [])

/-- The order of the values that a function takes, apart from them. -/
def takeOrder (e : Expr) : Expr × List Part :=
  match e.bare with
  | .sorted e keys => (e, .text " ORDER BY " :: Part.list keys)
  | _ => (e, [])

/-- The texts of all rows, put together with a separator between them. -/
def textOfRows (d : Dialect) (e : Expr) (separator : Option Expr) : Expr :=
  let (value, order) := takeOrder e
  match d with
  | .postgresql =>
    ofParts "groupconcat" (some e)
      (.text "STRING_AGG(" :: .value value :: .text ", " :: .value (separator.getD (.text ",")) ::
        order ++ [.text ")"])
  | .mysql =>
    ofParts "groupconcat" (some e)
      [.text "GROUP_CONCAT(", .value e, .text " SEPARATOR ",
        .value (separator.getD (.text ",")), .text ")"]
  | .sqlite => named "groupconcat" "GROUP_CONCAT" (some e) (value :: separator.toList)

def groupConcat (d : Dialect) : Builder := fun es =>
  match es with
  | e :: rest => atMost 3 es (textOfRows d e rest.head?)
  | [] => .ok (named "groupconcat" "GROUP_CONCAT" none [])

/-- An array of the values of all rows. -/
def arrayOfRows (d : Dialect) : Builder := fun es =>
  atMost 2 es
    (named "arrayagg" (if d == .mysql then "GROUP_CONCAT" else "ARRAY_AGG") es[0]? (es.take 1))

def aggregateFunction? (d : Dialect) (name : String) : Option Builder :=
  let onPostgresql (own other : String) : String := if d == .postgresql then own else other
  let variance := renamed "variance" (onPostgresql "VAR_SAMP" "VARIANCE")
  let population := renamed "variancepop" (onPostgresql "VAR_POP" "VARIANCE_POP")
  let either := renamed "logicalor" (onPostgresql "BOOL_OR" "MAX")
  let every := renamed "logicaland" (onPostgresql "BOOL_AND" "MIN")
  match name with
  | "VARIANCE" => some variance
  | "VARIANCE_SAMP" => some variance
  | "VAR_SAMP" => some variance
  | "VARIANCE_POP" => some population
  | "VAR_POP" => some population
  | "LOGICAL_OR" => some either
  | "BOOL_OR" => some either
  | "BOOLOR_AGG" => some either
  | "LOGICAL_AND" => some every
  | "BOOL_AND" => some every
  | "BOOLAND_AGG" => some every
  | "ANY_VALUE" => some (renamed "anyvalue" (if d == .sqlite then "MAX" else "ANY_VALUE"))
  | "COUNT_IF" => some (countIf d)
  | "COUNTIF" => some (countIf d)
  | "MEDIAN" => some (median d)
  | "PERCENTILE_CONT" => some (percentile d "percentilecont" "PERCENTILE_CONT")
  | "PERCENTILE_DISC" => some (percentile d "percentiledisc" "PERCENTILE_DISC")
  | "GROUP_CONCAT" => some (groupConcat d)
  | "ARRAY_AGG" => some (arrayOfRows d)
  | "ARRAYAGG" => some (arrayOfRows d)
  | _ => none

end SchemaDesk.Sql.Function
