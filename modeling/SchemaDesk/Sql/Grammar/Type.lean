import SchemaDesk.Sql.Grammar.Nested
/-!
Types with their parameters, time zones, signs and array bounds.
-/

namespace SchemaDesk.Sql.Grammar

open Reader

/-- The type that a token names. -/
def typeWord? (d : Dialect) (t : Token) : Option String :=
  match t.kind with
  | .type name => some name
  | .keyword name =>
    if name == "ARRAY" || name == "RANGE" || (name == "SET" && d == .mysql) then some name
    else none
  | _ => none

/-- The type that a quoted name is, if it consists of the name of a type alone. -/
def quotedType? (d : Dialect) (s : String) : Option String :=
  match Lexer.tokens? d s.toList with
  | some [t] => typeWord? d t
  | _ => none

def isTimeType (name : String) : Bool :=
  ["TIME", "TIMETZ", "TIMESTAMP", "TIMESTAMPTZ", "TIMESTAMPLTZ", "TIMESTAMPNTZ"].contains name

/-- The unsigned form of a type of numbers. -/
def unsignedType? (name : String) : Option String :=
  if ["BIGINT", "INT", "MEDIUMINT", "SMALLINT", "TINYINT", "DECIMAL", "DOUBLE"].contains name then
    some ("U" ++ name)
  else none

/-- Dialects in which every other name is a type as well. -/
def namesAreTypes (d : Dialect) : Bool := d != .mysql

/-- The types of PostgreSQL that stand for things in the database; they have no parameters. -/
def referenceTypes : List String := [
  "CSTRING", "OID", "REGCLASS", "REGCOLLATION", "REGCONFIG", "REGDICTIONARY", "REGNAMESPACE",
  "REGOPER", "REGOPERATOR", "REGPROC", "REGPROCEDURE", "REGROLE", "REGTYPE"]

/-- A size is a value, or a word in upper case, with a word behind it at most. -/
def typeSize (n : Nested) : Reader (Option Expr) := do
  match ← n.value with
  | none => return none
  | some e =>
    let size := match e.bare with
      | .column [] last => .word (Text.upper last.plainName)
      | _ => e
    match ← anyWord with
    | some w =>
      let suffix ← noted (.word w)
      return some (.phrase "datatypeparam" size.heart? [.value size, .text " ", .value suffix])
    | none => some <$> noted size

/-- The parameters of a type between parentheses; `none` if there are none in them, or if they do not
end there. -/
def typeParameters (n : Nested) (name : String) : Reader (Option (List Expr)) := do
  if ← mark "(" then
    let parameters ←
      if name == "ENUM" || name == "SET" then values n.equality
      else values (typeSize n)
    if ← (pure !parameters.isEmpty <&&> mark ")") then return some parameters
    return none
  return some []

/-- The types that are built of others. -/
def composedTypes : List String := ["ARRAY", "LIST", "MAP", "NULLABLE", "OBJECT", "RANGE", "STRUCT"]

/-- A field with its type, or a type alone. -/
def fieldType (d : Dialect) (n : Nested) : Reader (Option Expr) := do
  let start ← get
  match ← anyName with
  | none => return none
  | some i =>
    let _ ← mark ":"
    if !(← nextIs fun t => (typeWord? d t).isSome) then
      backTo start
      return (← n.type false true).map .typed
    let t ← n.type true true
    return some (.phrase "columndef" (Expr.someName i.text)
      (.value (.name i) :: (match t with
        | some t => [.text " ", .value (.typed t)]
        | none => [])))

/-- What a type is built of, between angle brackets. -/
def composition (d : Dialect) (n : Nested) (inDefinition named : Bool) (name : String) :
    Reader (Option TypeExpr) := do
  if !composedTypes.contains name then return none
  if !(← mark "<") then return none
  let parts ← values (if name == "STRUCT" || name == "OBJECT" then fieldType d n
    else do return (← n.type inDefinition named).map .typed)
  expectMark ">"
  return some (match name, parts with
    | "ARRAY", [.typed t] => .array t []
    | _, _ => .composed name parts)

/-- What time zone the type has, by the words behind it. -/
def timeZone (name : String) : Reader String := do
  if isTimeType name then
    if ← words ["WITH", "TIME", "ZONE"] then
      return if name == "TIME" || name == "TIMETZ" then "TIMETZ" else "TIMESTAMPTZ"
    if ← words ["WITH", "LOCAL", "TIME", "ZONE"] then return "TIMESTAMPLTZ"
    let _ ← words ["WITHOUT", "TIME", "ZONE"]
  return name

/-- The type of an interval, with a unit or two of them. -/
def intervalType : Reader TypeExpr := do
  match ← plainWord with
  | none => return .noted (← takeComments) (.named "INTERVAL" [])
  | some w =>
    let first ← noted (.word (Text.upper w))
    if ← word "TO" then
      let last ← noted (.word (Text.upper ((← plainWord).getD "")))
      return .named "INTERVAL" [.phrase "intervalspan" first.heart?
        [.value first, .text " TO ", .value last]]
    return .named "INTERVAL" [first]

/-- A known type behind its name and parameters. An interval has a unit instead of parameters. -/
def knownType (name : String) (parameters : List Expr) : Reader TypeExpr := do
  if name == "INTERVAL" then return ← intervalType
  let zoned ← timeZone name
  if zoned != name then return .named zoned parameters
  if ← word "UNSIGNED" then
    match unsignedType? name with
    | some unsigned => return .named unsigned parameters
    | none => fault (.signedOnly name)
  return .named name parameters

/-- Array bounds behind a type. -/
def arrayBounds (n : Nested) (inDefinition : Bool) (t : TypeExpr) : Reader (Option TypeExpr) := do
  let c ← get
  let afterWord ← lastIs (·.isKeyword "ARRAY")
  let wordHere ← keyword "ARRAY"
  if ← mark "[" then
    if ← (pure (afterWord || wordHere) <&&> mark "]") then
      return if wordHere then some (.array t []) else none
    let bounds ← values n.condition
    if !bounds.isEmpty && !inDefinition then
      backTo c
      return none
    let _ ← mark "]"
    return some (.array t bounds)
  if wordHere then return some (.array t [])
  return none

/-- The name of a type that the dialect does not know, with the names that qualify it. Only PostgreSQL
tells quoted names from others there. -/
def ownType (d : Dialect) (first : Ident) : Reader (List Ident) := do
  let rest ← many do
    if ← mark "." then
      if d == .postgresql then return some ((← anyName).getD { text := "" })
      return some { text := (← anyWord).getD "" }
    return none
  return if d == .postgresql then first :: rest
    else ({ text := first.text } : Ident) :: rest

/-- The start of a type: one that the dialect knows, or the name of another one. -/
def typeHead (d : Dialect) (named : Bool) : Reader (Option (Sum String (List Ident))) := do
  match ← takeIf fun t => (typeWord? d t).isSome with
  | some t => return (typeWord? d t).map Sum.inl
  | none =>
    if !named then return none
    match ← nameAmong (·.kind == .word) with
    | none => return none
    | some i =>
      match quotedType? d i.text with
      | some name => return some (.inl name)
      | none => if namesAreTypes d then return some (.inr (← ownType d i)) else return none

/-- A type. `callable` says that a name with parameters may be a function, so that it is a type only
if a text follows. -/
def typeWith (d : Dialect) (n : Nested) (inDefinition named callable : Bool) :
    Reader (Option TypeExpr) := do
  let start ← get
  match ← typeHead d named with
  | none =>
    backTo start
    return none
  | some head =>
    let known := match head with
      | .inl name => name
      | .inr _ => ""
    if referenceTypes.contains known then
      return some (.noted (← takeComments) (.named known []))
    let opened ← nextIsMark "("
    match ← typeParameters n known with
    | none =>
      backTo start
      return none
    | some parameters =>
      let t ← match ← composition d n inDefinition named known, head with
        | some t, _ => pure t
        | none, .inl name => knownType name parameters
        | none, .inr path => pure (.userDefined path parameters)
      if opened && callable && !(← nextIs (·.kind == .text)) then
        backTo start
        return none
      some <$> extend (arrayBounds n inDefinition) t

end SchemaDesk.Sql.Grammar
