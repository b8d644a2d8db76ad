import SchemaDesk.Sql.Function.Aggregate
import SchemaDesk.Sql.Function.Catalogue
import SchemaDesk.Sql.Function.Collection
import SchemaDesk.Sql.Function.Number
import SchemaDesk.Sql.Function.Text
import SchemaDesk.Sql.Function.Time
/-!
Calls of functions by name. A known function is written in the form that the dialect prefers; any
other keeps its name.
-/

namespace SchemaDesk.Sql.Function

/-- One of two values, depending on whether a third one is null. -/
def byNull : Builder
  | es@(e :: v :: rest) =>
    atMost 3 es (ofParts "nvl2" (some e)
      (caseParts none [(.unary "not" "NOT " (.binary Operator.is [] e .null), v)] rest.head?))
  | es => .ok (named "nvl2" "NVL2" es[0]? es)

/-- One of two values by a condition. -/
def byCondition (d : Dialect) : Builder
  | es@(c :: v :: rest) => atMost 3 es (choice d c v rest.head?)
  | es => .ok (named "if" "IF" es[0]? es)

/-- One of two conditions, but not both of them. -/
def exclusive (d : Dialect) : Builder
  | a :: b :: _ =>
    .ok (match d with
      | .postgresql =>
        ofParts "xor" (some a) [.text "(", .value a, .text " AND (NOT ", .value b,
          .text ")) OR ((NOT ", .value a, .text ") AND ", .value b, .text ")"]
      | _ => .binary Operator.exclusive [] a b)
  | es => .ok (named "xor" "XOR" es[0]? es)

def choiceFunction? (d : Dialect) (name : String) : Option Builder :=
  match name with
  | "NVL2" => some byNull
  | "IF" => some (byCondition d)
  | "IIF" => some (byCondition d)
  | "XOR" => some (exclusive d)
  | _ => none

/-- How a call of a function is built, by the name in upper case, if the function is known. -/
def builder? (d : Dialect) (name : String) : Option Builder :=
  (timeFunction? d name).or <| (textFunction? d name).or <| (numberFunction? d name).or <|
    (aggregateFunction? d name).or <| (collectionFunction? d name).or <|
    (choiceFunction? d name).or <| (signature? name).map (·.build name)

/-- Functions of groups of rows; in parentheses, they may still stand over a window. -/
def aggregateKinds : List String := [
  "approxdistinct", "approxquantile", "anyvalue", "argmax", "argmin", "arrayagg", "arrayconcatagg",
  "arrayunionagg", "arrayuniqueagg", "avg", "corr", "count", "countif", "covarpop", "covarsamp",
  "first", "firstvalue", "groupconcat", "hll", "jsonarrayagg", "lag", "last", "lastvalue", "lead",
  "logicaland", "logicalor", "max", "median", "min", "nthvalue", "percentilecont",
  "percentiledisc", "quantile", "stddev", "stddevpop", "stddevsamp", "sum", "variance",
  "variancepop"]

end SchemaDesk.Sql.Function
