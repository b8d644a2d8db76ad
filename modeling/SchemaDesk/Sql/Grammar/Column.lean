import SchemaDesk.Sql.Grammar.Call
/-!
Columns and other values, with the operators behind them that take a part of a value.
-/

namespace SchemaDesk.Sql.Grammar

open Reader

def nameValue (admitted : Reader (Option Ident)) (d : Dialect) : Reader (Option Expr) :=
  orElse (parameter d) do return (← admitted).map Expr.name

/-- A literal, a call or a name. -/
def plainField (d : Dialect) (n : Nested) : Reader (Option Expr) :=
  orElse (primary d n) (orElse (call d n false false) (nameValue name d))

/-- A literal, a call or any word that is not reserved. -/
def field (d : Dialect) (n : Nested) : Reader (Option Expr) :=
  orElse (primary d n) (orElse (call d n true false) (nameValue anyName d))

/-- What stands behind a dot. -/
def member (d : Dialect) (n : Nested) : Reader (Option Expr) :=
  orElse (call d n true true) (orElse (primary d n) (nameValue anyName d))

/-- The word `VALUES` as a name. -/
def valuesName : Reader (Option Expr) := do
  if ← (nextIsKeyword "VALUES" <&&> (return !(← secondIs (·.isMark "(")))) then
    return (← anyName).map Expr.name
  return none

/-- A literal, a call or a column. -/
def reference (d : Dialect) (n : Nested) : Reader (Option Expr) := do
  match ← orElse (plainField d n) valuesName with
  | some (.name i) => some <$> notedBy i.comments (.column [] (.name { i with comments := [] }))
  | e => return e

def isColumn (e : Expr) : Bool :=
  match e.bare with
  | .column _ _ => true
  | _ => false

/-- A column as names with dots between them. -/
def asMembers (e : Expr) : Expr :=
  match e.bare with
  | .column [] last => last
  | .column (q :: qs) last => (qs ++ [last]).foldl (.binary Operator.member []) q
  | _ => e

/-- What a function over a window stands for, with a value in front of the function. -/
def memberWindow (e : Expr) : List Part → List Part
  | .value f :: rest => .value (.binary Operator.member [] e f) :: rest
  | parts => parts

/-- A value with a part of it behind a dot. A column has four parts at most. -/
def withMember (e p : Expr) : Reader Expr := do
  let (notes, part) := p.takeNotes
  let whole ← (match part, e.bare with
    | .phrase "window" heart written, _ =>
      pure (.phrase "window" heart (memberWindow (asMembers e) written))
    | _, .column qualifiers last =>
      if part.isFunction then noted (.binary Operator.member [] (asMembers e) part)
      else if qualifiers.length < 3 then
        notedBy e.takeNotes.1 (.column (qualifiers ++ [last]) part)
      else noted (.binary Operator.member [] e part)
    | _, _ => noted (.binary Operator.member [] e part))
  return whole.note notes

/-- The operators that take a part of a value by a key or a path. -/
def partOperator? (d : Dialect) (t : Token) : Option (Expr → Expr → Expr) :=
  match t.kind with
  | .mark "->" => some (Function.jsonArrow d false)
  | .mark "->>" => some (Function.jsonArrow d true)
  | .mark "#>" => some (.binary (Operator.atPath d) [])
  | .mark "#>>" => some (.binary (Operator.textAtPath d) [])
  | .mark "?" => some (.binary (Operator.hasKey d) [])
  | _ => none

/-- The operand behind such an operator. -/
def partOperand (d : Dialect) (n : Nested) : Reader (Option Expr) := do
  let start ← get
  match ← reference d n with
  | some e =>
    if ← (pure (isColumn e) <&&> nextIsMark ".") then
      backTo start
      n.column
    else return some e
  | none => n.sum

/-- A value, or a part of an array between two places. -/
def arrayItem (d : Dialect) (n : Nested) : Reader (Option Expr) := do
  match ← namedByWord d n with
  | none => return none
  | some e =>
    if ← mark ":" then
      let stop ← n.condition
      let step ← (do if ← mark ":" then n.operand else return none)
      let behind (e : Option Expr) : List Part := (e.map Part.value).toList
      let third := if step.isSome then [Part.text ":"] else []
      return some (← noted
        (.phrase "slice" e.heart? (.value e :: .text ":" :: behind stop ++ third ++ behind step)))
    return some e

/-- A field of a record, with its name in front or behind. -/
def recordField (d : Dialect) (n : Nested) : Reader (Option Expr) := do
  match ← namedByWord d n with
  | none => return none
  | some e =>
    if ← mark ":" then
      let value ← required n.condition
      return some (.aliased value { text := e.ownName })
    return some e

/-- A date or a time behind its short word. -/
def shortTime (t : Token) : Reader Expr := do
  let kind := match Text.lower t.text with
    | "d" => "date"
    | "t" => "time"
    | _ => "timestamp"
  let s ← required textToken
  let text ← noted (.text s)
  let e := Function.named kind (Text.upper kind) (some text) [text]
  if !(← mark "\x7d") then fault (.unclosed "\x7d")
  return e

/-- A record between braces. -/
def record (d : Dialect) (n : Nested) : Reader (Option Expr) := do
  if !(← mark "\x7b") then return none
  match ← takeIf fun t => t.kind == .word && ["d", "t", "ts"].contains (Text.lower t.text) with
  | some t => some <$> shortTime t
  | none =>
    let fields ← values (recordField d n)
    if !(← mark "\x7d") then fault (.unclosed "\x7d")
    some <$> noted (Function.record fields)

/-- The words in front of brackets that make an array or a list of values. -/
def constructed? (e : Expr) (es : List Expr) : Option Expr :=
  match Text.upper e.ownName with
  | "ARRAY" => some (.array es)
  | "LIST" => some (Function.named "list" "LIST" none es)
  | _ => none

/-- A part of a value by its place. PostgreSQL puts an array in parentheses there. -/
def subscripted (d : Dialect) (e : Expr) (es : List Expr) : Expr :=
  let whole := match d, e.bare with
    | .postgresql, .array _ => .paren e
    | _, _ => e
  .phrase "bracket" e.heart? (.value whole :: .text "[" :: Part.list es ++ [.text "]"])

/-- Values between brackets: an array, or places in the value in front of them. -/
def bracketed (d : Dialect) (n : Nested) (e : Option Expr) : Reader (Option Expr) := do
  if !(← mark "[") then return none
  let es ← values (arrayItem d n)
  if !(← mark "]") then fault (.unclosed "]")
  match e with
  | none => some <$> noted (.array es)
  | some e =>
    match constructed? e es with
    | some array => return some array
    | none =>
      let (notes, bare) := e.takeNotes
      some <$> (notedBy notes (subscripted d bare es) >>= noted)

/-- What stands in brackets or braces. -/
def enclosed (d : Dialect) (n : Nested) (e : Option Expr) : Reader (Option Expr) :=
  orElse (bracketed d n e) (record d n)

/-- A value with the next operator behind it. -/
def withPart (d : Dialect) (n : Nested) (e : Expr) : Reader (Option Expr) := do
  match ← enclosed d n (some e) with
  | some whole => return some whole
  | none =>
    if ← mark "::" then
      match ← n.type false true with
      | none => fault .expectedType
      | some (.noted comments t) => return some ((← noted (.cast "cast" e t)).note comments)
      | some t => return some (← noted (.cast "cast" e t))
    if ← mark "." then
      match ← member d n with
      | none => return some e
      | some p => return some (← withMember e p)
    match (← peek).bind (partOperator? d) with
    | none => return none
    | some build =>
      let _ ← next
      let (notes, part) := (← required (partOperand d n)).takeNotes
      return some ((← noted (build e part)).note notes)

/-- A value with all operators behind it. -/
def withParts (d : Dialect) (n : Nested) (e : Expr) : Reader Expr := extend (withPart d n) e

/-- A value by a reference, an array or a record. -/
def column (d : Dialect) (n : Nested) : Reader (Option Expr) := do
  match ← reference d n with
  | some e => some <$> withParts d n e
  | none => enclosed d n none

end SchemaDesk.Sql.Grammar
