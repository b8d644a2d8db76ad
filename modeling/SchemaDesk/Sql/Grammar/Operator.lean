import SchemaDesk.Sql.Grammar.Operand
/-!
Operators between operands, from those that bind most tightly to those that bind least. They associate
to the left, except for the one that assigns.
-/

namespace SchemaDesk.Sql.Grammar

open Reader

/-- The operator of some marks that a token is. -/
def markOperator (marks : List (String × Operator)) (t : Token) : Option Operator :=
  match t.kind with
  | .mark symbol => marks.lookup symbol
  | _ => none

/-- Operands with operators between them. The comments of an operator stay with it. -/
def chain (operand : Reader (Option Expr)) (operator? : Token → Option Operator) :
    Reader (Option Expr) := do
  match ← operand with
  | none => return none
  | some e =>
    some <$> extend (fun l => do
      match (← peek).bind operator? with
      | none => return none
      | some o =>
        let _ ← next
        let comments ← waiting
        let r ← required operand
        some <$> notedBy comments (.binary o [] l r)) e

def power (d : Dialect) (n : Nested) : Reader (Option Expr) :=
  chain (operand d n) fun t =>
    if d == .postgresql then markOperator [("^", Operator.power d)] t else none

def product (d : Dialect) (n : Nested) : Reader (Option Expr) :=
  chain (power d n) fun t =>
    if t.isKeyword "DIV" then some Operator.wholeDivide
    else markOperator [("*", Operator.multiply), ("/", Operator.divide),
      ("<->", Operator.distance)] t

/-- The name of a collation is no column. -/
def collationName (e : Expr) : Expr :=
  match e.bare with
  | .column [] (.name i) => if i.quoted then .name { i with comments := [] } else .word i.text
  | _ => e

/-- A sum, in which collations are named as well. -/
def term (d : Dialect) (n : Nested) : Reader (Option Expr) := do
  match ← product d n with
  | none => return none
  | some e =>
    some <$> extend (fun l => do
      let collates ← nextIsKeyword "COLLATE"
      let found := (← peek).bind (markOperator [("+", Operator.add), ("-", Operator.subtract),
        ("%", Operator.remainder)])
      match (if collates then some Operator.collate else found) with
      | none => return none
      | some o =>
        let _ ← next
        let comments ← waiting
        let r ← required (product d n)
        some <$> notedBy comments (.binary o [] l (if collates then collationName r else r))) e

/-- Two marks that are one operator. -/
def shift : Reader (Option Operator) := do
  if ← pair (·.isMark "<") (·.isMark "<") then return some Operator.shiftLeft
  if ← pair (·.isMark ">") (·.isMark ">") then return some Operator.shiftRight
  return none

/-- The marks of the operators on bits and on texts. -/
def bitMarks (d : Dialect) : List (String × Operator) :=
  [("&", Operator.bitAnd), ("|", Operator.bitOr)] ++
    match d with
    | .postgresql => [("#", Operator.bitXor d), ("||", Operator.concatenate)]
    | .mysql => [("^", Operator.bitXor d)]
    | .sqlite => [("^", Operator.bitXor d), ("||", Operator.concatenate)]

def sum (d : Dialect) (n : Nested) : Reader (Option Expr) := do
  match ← term d n with
  | none => return none
  | some e =>
    some <$> extend (fun l => do
      if ← mark "??" then
        let r ← required (term d n)
        return some (← noted (Function.named "coalesce" "COALESCE" (some l) [l, r]))
      let found ← (do
        match ← shift with
        | some o => return some o
        | none =>
          match (← peek).bind (markOperator (bitMarks d)) with
          | none => return none
          | some o =>
            let _ ← next
            return some o)
      match found with
      | none => return none
      | some o =>
        let r ← required (term d n)
        some <$> noted (.binary o [] l r)) e

end SchemaDesk.Sql.Grammar
