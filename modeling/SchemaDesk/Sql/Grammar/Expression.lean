import SchemaDesk.Sql.Grammar.Query
/-!
Expressions, types and queries inside of each other.
-/

namespace SchemaDesk.Sql.Grammar

open Reader

/-- The readers for what is nested at most so many times. Every nesting takes a token at least, so
that the count of tokens is enough. -/
def nested (d : Dialect) : Nat → Nested
  | 0 => Nested.bottom
  | k + 1 =>
    let n := nested d k
    { condition := condition d n
      sum := sum d n
      term := term d n
      equality := equality d n
      operand := operand d n
      value := value d n
      column := column d n
      type := fun inDefinition named => typeWith d n inDefinition named false
      query := query d n
      source := source d n
      joined := joined d n }

end SchemaDesk.Sql.Grammar
