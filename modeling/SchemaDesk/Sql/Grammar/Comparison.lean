import SchemaDesk.Sql.Grammar.Operator
/-!
Comparisons of values with ranges, sets and patterns, and the conditions that are built of them.
-/

namespace SchemaDesk.Sql.Grammar

open Reader

/-- A condition with `NOT` in front, if there is one. -/
def negated (no : Bool) (e : Expr) : Reader Expr := do
  if no then noted (.unary "not" "NOT " e) else return e

/-- The character behind `ESCAPE` that takes the meaning of others away in a pattern. -/
def escaped (e : Expr) : Reader Expr := do
  if !(← keyword "ESCAPE") then return e
  match ← textToken with
  | some s =>
    let c ← noted (.text s)
    noted (.binary Operator.escape [] e c)
  | none =>
    if ← skipIf (·.kind == .type "NULL") then
      let c ← noted .null
      noted (.binary Operator.escape [] e c)
    else return e

/-- Whether a value lies between two others. Only PostgreSQL has a word for either order of them. -/
def between (d : Dialect) (n : Nested) (e : Expr) : Reader Expr := do
  let symmetric ← word "SYMMETRIC"
  let asymmetric ← (pure !symmetric <&&> word "ASYMMETRIC")
  let low ← required (sum d n)
  let _ ← keyword "AND"
  let high ← required (sum d n)
  let words (flag : String) (low high : Expr) : List Part :=
    [.value e, .text (" BETWEEN" ++ flag ++ " "), .value low, .text " AND ", .value high]
  let written : List Part :=
    if d == .postgresql then
      words (if symmetric then " SYMMETRIC" else if asymmetric then " ASYMMETRIC" else "") low high
    else if symmetric then
      .text "(" :: words "" low high ++ .text " OR " :: words "" high low ++ [.text ")"]
    else words "" low high
  noted (.phrase "between" e.heart? written)

/-- Whether a value is one of several, of the rows of a query, or of the items of an array. -/
def membership (d : Dialect) (n : Nested) (e : Expr) : Reader Expr := do
  let inside (set : List Part) : Expr := .phrase "in" e.heart? (.value e :: .text " IN " :: set)
  match ← takeIf fun t => t.isMark "(" || t.isMark "[" with
  | none => noted (inside [.value (← required (column d n))])
  | some opening =>
    let es ← values (queryOrValue d n false)
    let set ← (match es with
      | [q] => do
        match q.bare with
        | .clause _ _ => return [Part.text "(", .value q, .text ")"]
        | .subquery _ => return [Part.text "(", .value (← n.joined q), .text ")"]
        | _ => return [Part.text "(", .value q, .text ")"]
      | es => return Part.text "(" :: Part.list es ++ [.text ")"])
    let found ← noted (inside set)
    if opening.isMark "(" then closeBehind found
    else
      if !(← mark "]") then fault (.expected "]")
      noted found

/-- A kind of JSON values behind the word `JSON`. -/
def jsonKind : Reader Expr := do
  let kind ← oneOf ["VALUE", "SCALAR", "ARRAY", "OBJECT"]
  let uniqueness ← (do
    if ← word "WITH" then return " WITH"
    if ← word "WITHOUT" then return " WITHOUT"
    return "")
  let unique ← keyword "UNIQUE"
  let _ ← word "KEYS"
  noted (.phrase "json" none [.text ("JSON" ++
    (match kind with
    | some k => " " ++ k
    | none => "") ++ uniqueness ++ if unique then " UNIQUE KEYS" else "")])

/-- What a value is, behind the word `IS`. -/
def identity (d : Dialect) (n : Nested) (e : Expr) : Reader (Option Expr) := do
  let no ← keyword "NOT"
  if ← words ["DISTINCT", "FROM"] then
    let r ← required (sum d n)
    let o := if no then Operator.same d else Operator.notSame d
    return some (← noted (.binary o [] e r))
  let found ← (do
    if ← skipIf (·.kind == .type "JSON") then some <$> jsonKind else sum d n)
  match found with
  | none => return none
  | some r =>
    let whole ← negated no (← noted (.binary Operator.is [] e r))
    some <$> withParts d n whole

/-- A pattern without regard to small and capital letters, for which only PostgreSQL has a word. -/
def caselessMatch (d : Dialect) (e pattern : Expr) : Expr :=
  match d with
  | .postgresql => .binary Operator.caselessLike [] e pattern
  | _ => .phrase "ilike" e.heart?
      [.text "LOWER(", .value e, .text ") LIKE LOWER(", .value pattern, .text ")"]

/-- The comparison that a token stands for. -/
def rangeOperator? (d : Dialect) (t : Token) : Option (Expr → Expr → Expr) :=
  let binary (o : Operator) : Option (Expr → Expr → Expr) := some (.binary o [])
  match t.kind with
  | .keyword name =>
    match name with
    | "LIKE" => binary Operator.like
    | "ILIKE" => some (caselessMatch d)
    | "GLOB" => binary Operator.glob
    | "RLIKE" => binary (Operator.regular d)
    | "IRLIKE" => binary (Operator.caselessRegular d)
    | "SIMILAR TO" => binary Operator.similar
    | "OVERLAPS" => binary Operator.overlaps
    | "MATCH" => binary Operator.search
    | _ => none
  | .mark symbol =>
    match symbol with
    | "~*" => binary (Operator.caselessRegular d)
    | "@>" => binary Operator.containsAll
    | "<@" => some fun e set => .binary Operator.containsAll [] set e
    | "?&" => binary Operator.hasAllKeys
    | "?|" => binary Operator.hasAnyKey
    | "#-" => binary Operator.withoutPath
    | "-|-" => binary Operator.adjacent
    | "&<" => binary Operator.extendsLeft
    | "&>" => binary Operator.extendsRight
    | "&&" => if d == .postgresql then binary Operator.meets else none
    | _ => none
  | _ => none

/-- Whether a value sounds like another one. -/
def soundsLike (d : Dialect) (n : Nested) (e : Expr) : Reader Expr := do
  let sound (e : Expr) : Expr := Function.named "soundex" "SOUNDEX" (some e) [e]
  let l ← noted (sound e)
  let r ← required (term d n)
  let r ← noted (sound r)
  noted (.binary Operator.equal [] l r)

/-- Operators by their full names, behind the word `OPERATOR`. -/
def calledOperators (n : Nested) (fuel : Nat) (l : Expr) : Reader Expr := do
  match fuel with
  | 0 => return l
  | fuel + 1 =>
    if !(← mark "(") then return l
    let name ← many (takeIf (!·.isMark ")"))
    let _ ← mark ")"
    let comments ← waiting
    let r ← required n.operand
    let whole ← notedBy comments (.binary (Operator.called (String.join (name.map (·.text)))) [] l r)
    if ← keyword "OPERATOR" then calledOperators n fuel whole else return whole

/-- A range, a set, a pattern or an identity behind a value; none if a word for one has nothing behind
it. -/
def rangeBehind (d : Dialect) (n : Nested) (e : Expr) : Reader (Option (Option Expr)) := do
  if ← keyword "BETWEEN" then return some (some (← between d n e))
  if ← keyword "IN" then return some (some (← membership d n e))
  if ← keyword "OPERATOR" then return some (some (← calledOperators n (← remaining) e))
  let start ← get
  if ← keyword "IS" then
    match ← identity d n e with
    | some whole => return some (some whole)
    | none =>
      backTo start
      return some none
  if ← (pure (d == .mysql) <&&> keyword "SOUNDS LIKE") then
    return some (some (← soundsLike d n e))
  if ← (pure (d == .mysql) <&&> keyword "MEMBER OF") then
    let array ← wrapped (required n.condition)
    return some (some (← noted (Function.jsonMember d e array)))
  if ← (pure (d == .postgresql) <&&> mark "@@") then
    let text ← required (sum d n)
    return some (some (← noted (searchIn d [e] text "")))
  match (← peek).bind (rangeOperator? d) with
  | none => return none
  | some build =>
    let _ ← next
    let r ← required (sum d n)
    return some (some (← escaped (← noted (build e r))))

/-- A value with what it is compared with. -/
def ranged (d : Dialect) (n : Nested) (e : Expr) : Reader Expr := do
  let no ← keyword "NOT"
  match ← rangeBehind d n e with
  | some none => return e
  | found =>
    let isNull (e : Expr) : Reader Expr := noted (.binary Operator.is [] e .null)
    let e ← (match found with
      | some (some whole) => pure whole
      | _ => do
        let alone ← (keyword "ISNULL" <||> (pure no <&&> skipIf (·.kind == .type "NULL")))
        if alone then isNull e else return e)
    let e ← (do if ← keyword "NOTNULL" then negated true (← isNull e) else return e)
    let e ← negated no e
    let start ← get
    if ← keyword "IS" then
      match ← identity d n e with
      | some whole => return whole
      | none =>
        backTo start
        return e
    return e

def range (d : Dialect) (n : Nested) : Reader (Option Expr) := do
  match ← sum d n with
  | none => return none
  | some e => some <$> ranged d n e

def comparison (d : Dialect) (n : Nested) : Reader (Option Expr) :=
  chain (range d n) (markOperator [(">=", Operator.greaterEqual), ("<=", Operator.lessEqual),
    (">", Operator.greater), ("<", Operator.less)])

def equality (d : Dialect) (n : Nested) : Reader (Option Expr) :=
  chain (comparison d n) (markOperator [("=", Operator.equal), ("<>", Operator.different),
    ("<=>", Operator.same d)])

def conjunction (d : Dialect) (n : Nested) : Reader (Option Expr) :=
  chain (equality d n) fun t =>
    if t.isKeyword "AND" || d == .mysql && t.isMark "&&" then some Operator.conjunction
    else if t.isKeyword "XOR" && d == .mysql then some Operator.exclusive
    else none

def disjunction (d : Dialect) (n : Nested) : Reader (Option Expr) :=
  chain (conjunction d n) fun t =>
    if t.isKeyword "OR" || d == .mysql && t.isMark "||" then some Operator.disjunction else none

/-- The target of an assignment is a name and no column. -/
def assigned (e : Expr) : Expr :=
  match e.bare with
  | .column [] last => last
  | _ => e

/-- An expression of any kind. -/
def condition (d : Dialect) (n : Nested) : Reader (Option Expr) := do
  match ← disjunction d n with
  | none => return none
  | some e =>
    if ← mark ":=" then
      let comments ← waiting
      let r ← required n.condition
      some <$> notedBy comments (.binary Operator.assign [] (assigned e) r)
    else return some e

end SchemaDesk.Sql.Grammar
