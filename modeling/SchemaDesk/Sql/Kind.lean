import SchemaDesk.Sql.Syntax
/-!
What an expression is called: the name of its kind, its own name, and the name of the column that it
stands for in the list of a key.
-/

namespace SchemaDesk.Sql.Expr

/-- The name of the kind of an expression. -/
def kind : Expr → String
  | .noted _ e => e.kind
  | .name _ => "identifier"
  | .column _ _ => "column"
  | .star => "star"
  | .number _ | .text _ => "literal"
  | .raw _ => "rawstring"
  | .national _ => "national"
  | .bits _ => "bitstring"
  | .hex _ => "hexstring"
  | .escaped _ => "bytestring"
  | .null => "null"
  | .bool _ => "boolean"
  | .word _ => "var"
  | .unary kind _ _ => kind
  | .binary o _ _ _ => o.kind
  | .paren _ => "paren"
  | .tuple _ => "tuple"
  | .array _ => "array"
  | .distinct _ => "distinct"
  | .sorted _ _ => "order"
  | .call _ _ => "anonymous"
  | .known kind _ _ => kind
  | .cast kind _ _ => kind
  | .typed _ => "datatype"
  | .interval _ _ => "interval"
  | .aliased _ _ => "alias"
  | .phrase kind _ _ => kind
  | .clause kind _ => kind
  | .subquery _ => "subquery"

/-- The expression counts as a function. -/
def isFunction : Expr → Bool
  | .noted _ e => e.isFunction
  | .binary o _ _ _ => o.isFunction
  | .array _ | .call _ _ | .known _ _ _ | .cast _ _ _ => true
  | _ => false

/-- The text of a name, a word or a literal. -/
def plainName : Expr → String
  | .noted _ e => e.plainName
  | .name i => i.text
  | .number t | .text t | .word t => t
  | .star => "*"
  | .null => "NULL"
  | _ => ""

/-- The name of an expression itself: that of a column or a function, the text of a literal, and the
plain name of an operand. -/
def ownName : Expr → String
  | .noted _ e => e.ownName
  | .column _ last => last.plainName
  | .raw s | .national s | .bits s | .hex s | .escaped s => s
  | .unary _ _ e | .paren e | .cast _ e _ | .aliased e _ | .interval (some e) _ => e.plainName
  | .binary o _ l r => if o.kind == "dot" then r.ownName else l.plainName
  | .call f _ => f.text
  | e => e.plainName

/-- The name, unless it is empty. -/
def someName (s : String) : Option String := if s == "" then none else some s

/-- The name at the heart of an expression, behind the functions and operators around it. -/
def heart? : Expr → Option String
  | .noted _ e => e.heart?
  | .name i => someName i.text
  | .column _ last => someName last.plainName
  | .number t | .text t | .word t => someName t
  | .raw s | .national s | .bits s | .hex s | .escaped s => someName s
  | .unary _ _ e | .paren e | .cast _ e _ | .aliased e _ | .sorted e _ | .subquery e => e.heart?
  | .binary _ _ l _ => l.heart?
  | .call f _ => someName f.text
  | .known _ heart _ | .phrase _ heart _ => heart
  | .interval (some e) _ => e.heart?
  | _ => none

end SchemaDesk.Sql.Expr
