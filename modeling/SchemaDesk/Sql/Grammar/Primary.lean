import SchemaDesk.Sql.Function
import SchemaDesk.Sql.Grammar.Type
import SchemaDesk.Sql.Grammar.Window
/-!
The smallest expressions: literals, parameters that are filled in from outside, and what stands in
parentheses.
-/

namespace SchemaDesk.Sql.Grammar

open Reader

/-- Texts next to each other are joined. -/
def adjoined (d : Dialect) (first : Expr) : Reader Expr := do
  match ← many textToken with
  | [] => return first
  | more => noted (Function.concatenated d (first :: more.map .text))

/-- A literal that is a token of its own, other than a text. -/
def literalOf? (t : Token) : Option Expr :=
  match t.kind with
  | .text => some (.text t.text)
  | .raw => some (.raw t.text)
  | .number => some (.number t.text)
  | .national => some (.national t.text)
  | .bits => some (.bits t.text)
  | .hex => some (.hex t.text)
  | .escaped => some (.escaped t.text)
  | .type "NULL" => some .null
  | .keyword "TRUE" => some (.bool true)
  | .keyword "FALSE" => some (.bool false)
  | .mark "*" => some .star
  | _ => none

/-- A value that is a token of its own. -/
def literal (d : Dialect) : Reader (Option Expr) := do
  match ← takeIf fun t => (literalOf? t).isSome with
  | none => return none
  | some t =>
    let e ← noted ((literalOf? t).getD .null)
    if t.kind == .text then some <$> adjoined d e else return some e

/-- A number that starts with its point. -/
def fraction : Reader (Option Expr) := do
  let second ← peekSecond
  if ← pair (·.isMark ".") (·.kind == .number) then
    return second.map fun t => .number ("0." ++ t.text)
  return none

/-- A text behind the name of its character set. -/
def introduced (d : Dialect) : Reader (Option Expr) := do
  match ← takeIf (·.isKeyword "INTRODUCER") with
  | none => return none
  | some t =>
    match ← literal d with
    | some e => some <$> noted (.phrase "introducer" (some t.text) [.text (t.text ++ " "), .value e])
    | none => return some (.name (← nameAt t false))

/-- A setting of the session, such as `@@sql_mode`. -/
def sessionParameter (d : Dialect) : Reader (Option Expr) := do
  if !(← (pure (d == .mysql) <&&> mark "@@")) then return none
  let first ← anyName
  let rest ← (do if ← (pure first.isSome <&&> mark ".") then plainWord else return none)
  let name := ((first.map (·.text)).toList ++ rest.toList)
  some <$> noted (.phrase "sessionparameter" name.getLast? [.text ("@@" ++ ".".intercalate name)])

/-- A name between quotation marks or a word that no list knows. -/
def parameterName : Reader (Option Expr) := do
  match ← quotedName with
  | some i => return some (.name i)
  | none =>
    match ← takeIf fun t => t.kind == .word || t.kind == .number with
    | some t => some <$> noted (if t.kind == .number then .number t.text else .word t.text)
    | none => return none

/-- A value under a name that is filled in from outside. PostgreSQL writes it in another way. -/
def placeholder (d : Dialect) (name : String) : Expr :=
  .phrase "placeholder" (Expr.someName name)
    [.text (if d == .postgresql then "%(" ++ name ++ ")s" else ":" ++ name)]

/-- A parameter that is filled in from outside. -/
def parameter (d : Dialect) : Reader (Option Expr) := do
  let start ← get
  if ← mark "?" then return some (← noted (.phrase "placeholder" none [.text "?"]))
  if ← skipIf fun t => t.isMark "@" || t.isMark "$" then
    match ← parameterName with
    | some e =>
      let symbol := if d == .postgresql then "$" else "@"
      return some (← noted (.phrase "parameter" e.heart? [.text symbol, .value e]))
    | none =>
      backTo start
      return none
  if ← mark ":" then
    match ← takeIf fun t => t.kind == .word || t.kind == .number with
    | some t => return some (← noted (placeholder d t.text))
    | none =>
      backTo start
      return none
  if ← (pure (d == .postgresql) <&&> mark "%") then
    let i ← (do if ← nextIsMark "(" then wrapped anyName else return none)
    let _ ← word "S"
    return some (← noted (match i with
      | some i => placeholder d i.text
      | none => .phrase "placeholder" none [.text "%s"]))
  return none

/-- A name for a value. The comments of the value move behind the name. -/
def withAlias (e : Expr) (i : Ident) (comments : List String) : Reader Expr := do
  let named := Expr.aliased e { i with comments := [] }
  let all := comments ++ i.comments
  if all.isEmpty then
    let (own, bare) := e.takeNotes
    return Expr.note own (.aliased bare i)
  return Expr.note all named

/-- A name behind a value, with the word `AS` or without. Several names stand in parentheses. -/
def aliasOf (d : Dialect) (n : Nested) (onlyByWord : Bool) (e : Expr) : Reader Expr := do
  if ← startsLimit n then return e
  let byWord ← keyword "ALIAS"
  let comments ← (do if byWord then waiting else return [])
  if onlyByWord && !byWord then return e
  if ← mark "(" then
    let names ← moreItems anyName pure (← anyName) (← remaining)
    expectMark ")"
    return ← noted (.phrase "aliases" e.heart?
      (.value e :: .text " AS (" :: Part.list (names.map Expr.name) ++ [.text ")"]))
  match ← (if byWord then anyName else name) with
  | some i => withAlias e i comments
  | none =>
    if d == .postgresql && !byWord then return e
    match ← textName with
    | some i => withAlias e i comments
    | none => return e

/-- An expression that may have a name. -/
def named (d : Dialect) (n : Nested) : Reader (Option Expr) := do
  match ← n.condition with
  | some e => some <$> aliasOf d n false e
  | none => return none

/-- An expression that may have a name behind the word `AS`. -/
def namedByWord (d : Dialect) (n : Nested) : Reader (Option Expr) := do
  match ← n.condition with
  | some e => some <$> aliasOf d n true e
  | none => return none

/-- A function of the rows of a group. -/
def isAggregate (e : Expr) : Bool := Function.aggregateKinds.contains e.kind

/-- An expression or several of them, or a query, between parentheses. -/
def parenthesized (d : Dialect) (n : Nested) : Reader (Option Expr) := do
  if !(← mark "(") then return none
  let comments ← waiting
  match ← n.query with
  | some q =>
    let inner ← noted (.subquery q)
    return some (← closeBehind (inner.note comments))
  | none =>
    let es ← values (named d n)
    let afterComma ← lastIs (·.isMark ",")
    match es with
    | [] =>
      let e ← noted (.tuple [])
      return some (← closeBehind (e.note comments))
    | [e] =>
      match e.bare with
      | .subquery _ =>
        if afterComma then
          let e ← noted (.tuple es)
          return some (← closeBehind (e.note comments))
        let outer ← noted (.subquery (← n.joined e))
        return some (← closeBehind (outer.note comments))
      | bare =>
        let inner ← noted (if afterComma then .tuple es else .paren e)
        let whole ← closeBehind (inner.note comments)
        if !afterComma && isAggregate bare then some <$> withWindow d n whole else return some whole
    | _ =>
      let e ← noted (.tuple es)
      return some (← closeBehind (e.note comments))

def primary (d : Dialect) (n : Nested) : Reader (Option Expr) :=
  orElse (literal d) <| orElse (introduced d) <| orElse (sessionParameter d) <|
    orElse fraction (parenthesized d n)

end SchemaDesk.Sql.Grammar
