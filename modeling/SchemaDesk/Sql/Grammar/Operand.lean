import SchemaDesk.Sql.Grammar.Column
/-!
Operands: amounts of time, literals behind their types, columns, and operators in front of one
operand.
-/

namespace SchemaDesk.Sql.Grammar

open Reader

/-- The amount is a name, which must be told from a column that is called like the word in front. -/
def isLoneName (e : Expr) : Bool :=
  match e.bare with
  | .column [] (.name i) => !i.quoted
  | _ => false

/-- The amount and the unit of a text. A text that names its unit leaves the word behind it alone. -/
def textAmount (e : Expr) (s : String) (beforeUnit : Cursor) (unit : Option String) :
    Reader (Expr × String) := do
  match Interval.amounts s with
  | [] =>
    return (e, unit.getD "")
  | [(amount, u)] =>
    backTo beforeUnit
    let _ ← takeComments
    return (.text amount, Text.upper u)
  | _ =>
    backTo beforeUnit
    return (e, "")

/-- An amount of time without the word in front of it. -/
def timeAmount (d : Dialect) (n : Nested) : Reader (Option Expr) := do
  match ← (do if ← nextIs (·.kind == .text) then primary d n else n.term) with
  | none => return none
  | some e =>
    let follows ← nextIs fun t => !Interval.unitWords.contains (Text.upper t.text)
    if isLoneName e && follows then return none
    let beforeUnit ← get
    let unit ← (do if ← nextIsKeyword "ALIAS" then return none else capitalWord)
    let unit := unit.map Expr.plainName
    let (amount, unit) ← (match Interval.numberText? e, e.bare with
      | some s, _ => pure (.text s, unit.getD "")
      | none, .text s => textAmount e s beforeUnit unit
      | none, _ => pure (e, unit.getD ""))
    if ← word "TO" then
      let last ← capitalWord
      return some (Interval.spanning d amount
        (unit ++ " TO " ++ ((last.map Expr.plainName).getD "")))
    some <$> noted (Interval.of d amount (Function.longUnit unit))

/-- Amounts of time in a row are added up. -/
def timeAmounts (d : Dialect) (n : Nested) : Nat → Reader (Option Expr)
  | 0 => return none
  | fuel + 1 => do
    match ← timeAmount d n with
    | none => return none
    | some e =>
      let start ← get
      let _ ← mark "+"
      if ← nextIs fun t => t.kind == .text || t.kind == .number then
        match ← timeAmounts d n fuel with
        | some more => return some (← noted (.binary Operator.add [] e more))
        | none => pure ()
      backTo start
      return some e

/-- An amount of time behind the word `INTERVAL`. -/
def interval (d : Dialect) (n : Nested) : Reader (Option Expr) := do
  let start ← get
  if !(← skipIf (·.kind == .type "INTERVAL")) then return none
  match ← timeAmounts d n (← remaining) with
  | some e => return some e
  | none =>
    backTo start
    return none

def isPlainLiteral (e : Expr) : Bool :=
  match e.bare with
  | .text _ | .number _ => true
  | _ => false

/-- A type of arrays, or one with parameters. -/
def hasParameters : TypeExpr → Bool
  | .named _ parameters => !parameters.isEmpty
  | .array _ _ => true
  | .composed _ parts => !parts.isEmpty
  | _ => false

/-- A text or a number behind the name of its type, or a type in the place of a value. -/
def typedValue (d : Dialect) (n : Nested) : Reader (Option Expr) := do
  let start ← get
  match ← typeWith d n false false true with
  | none => return none
  | some t =>
    let behind ← get
    match ← primary d n with
    | some e =>
      if isPlainLiteral e then
        let e ← withParts d n e
        return some (← noted (match t with
          | .named "JSON" _ => Function.jsonOf d e
          | t => .cast "cast" e t))
    | none => pure ()
    if hasParameters t && behind.rest.length + 1 < start.rest.length then
      backTo behind
      return some (← withParts d n (.typed t))
    backTo start
    return none

/-- A value as bytes, behind the word for it in MySQL. -/
def bytes (d : Dialect) (n : Nested) : Reader (Option Expr) := do
  if !(← (pure (d == .mysql) <&&> nextIs (·.kind == .type "BINARY"))) then return none
  match ← typeWith d n false false true with
  | none => return none
  | some t => some <$> noted (.cast "cast" (← required (column d n)) t)

/-- A value without prefix operators. -/
def value (d : Dialect) (n : Nested) : Reader (Option Expr) := do
  match ← bytes d n with
  | some e => return some e
  | none =>
    match ← interval d n with
    | some e => some <$> withParts d n e
    | none =>
      match ← orElse (typedValue d n) (column d n) with
      | some e => some <$> withParts d n e
      | none => return none

/-- A time in another zone. MySQL knows no such thing. -/
def inZone (d : Dialect) (e zone : Expr) : Expr :=
  .phrase "attimezone" e.heart?
    (.value e :: if d == .mysql then [] else [.text " AT TIME ZONE ", .value zone])

/-- A value in other time zones. -/
def zoned (d : Dialect) (n : Nested) : Reader (Option Expr) := do
  match ← value d n with
  | none => return none
  | some e =>
    some <$> extend (fun l => do
      if ← words ["AT", "TIME", "ZONE"] then
        let zone ← required n.operand
        return some (← noted (inZone d l zone))
      return none) e

/-- An operator in front of one operand, with its operand. -/
def prefixed (n : Nested) (kind symbol : String) : Reader (Option Expr) := do
  some <$> noted (.unary kind symbol (← required n.operand))

/-- A function that has a mark of its own. -/
def rootOf (n : Nested) (kind name : String) : Reader (Option Expr) := do
  let e ← required n.operand
  some <$> noted (Function.named kind name (some e) [e])

/-- An operand with its prefix operators; a plus sign is dropped. -/
def operand (d : Dialect) (n : Nested) : Reader (Option Expr) := do
  if ← mark "+" then n.operand
  else if ← keyword "NOT" then
    some <$> noted (.unary "not" "NOT " (← required n.equality))
  else if ← mark "-" then prefixed n "neg" "-"
  else if ← mark "~" then prefixed n "bitwisenot" "~"
  else if ← (pure (d == .postgresql) <&&> keyword "RLIKE") then prefixed n "bitwisenot" "~"
  else if ← mark "|/" then rootOf n "sqrt" "SQRT"
  else if ← mark "||/" then rootOf n "cbrt" "CBRT"
  else zoned d n

end SchemaDesk.Sql.Grammar
