import SchemaDesk.Sql.Grammar.Name
/-!
What may stand inside of itself. The grammar is written level by level: the readers of a level take
those of the level below it for whatever is nested more deeply.
-/

namespace SchemaDesk.Sql.Grammar

structure Nested where
  /-- An expression of any kind. -/
  condition : Reader (Option Expr)
  /-- An expression without comparisons in it. -/
  sum : Reader (Option Expr)
  /-- Sums of products. -/
  term : Reader (Option Expr)
  /-- A comparison for equality and what binds more tightly. -/
  equality : Reader (Option Expr)
  /-- An operand with its prefix operators. -/
  operand : Reader (Option Expr)
  /-- An operand without prefix operators. -/
  value : Reader (Option Expr)
  /-- A name, a call or a literal, with the operators that take a part of it. -/
  column : Reader (Option Expr)
  /-- A type; `inDefinition` allows array bounds, `named` allows types of other names. -/
  type : (inDefinition named : Bool) → Reader (Option TypeExpr)
  /-- A query without parentheses. -/
  query : Reader (Option Expr)
  /-- A table or a query that rows come from. -/
  source : Reader (Option Expr)
  /-- A query in parentheses with what is joined to it. -/
  joined : Expr → Reader Expr

namespace Nested

/-- No level is left. -/
def bottom : Nested where
  condition := Reader.fault .tooDeep
  sum := Reader.fault .tooDeep
  term := Reader.fault .tooDeep
  equality := Reader.fault .tooDeep
  operand := Reader.fault .tooDeep
  value := Reader.fault .tooDeep
  column := Reader.fault .tooDeep
  type _ _ := Reader.fault .tooDeep
  query := Reader.fault .tooDeep
  source := Reader.fault .tooDeep
  joined _ := Reader.fault .tooDeep

end Nested

end SchemaDesk.Sql.Grammar
