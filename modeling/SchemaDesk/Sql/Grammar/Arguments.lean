import SchemaDesk.Sql.Grammar.Primary
/-!
The arguments of the functions that separate them by words, such as `FROM` in `SUBSTRING(x FROM 2)`.
-/

namespace SchemaDesk.Sql.Grammar

open Reader

/-- What is built from arguments, or the fault that they are. -/
def built (e : Except SyntaxCause Expr) : Reader Expr :=
  match e with
  | .ok e => pure e
  | .error cause => fault cause

/-- A word that no list knows, or a text. -/
def wordOrText : Reader (Option Expr) := do
  match ← plainWord with
  | some w => some <$> noted (.word w)
  | none =>
    match ← textToken with
    | some s => some <$> noted (.text s)
    | none => return none

/-- The target of a cast. A name may stand for a type that is not known. -/
def castTarget (n : Nested) : Reader TypeExpr := do
  match ← n.type false true with
  | none => fault (.expectedAfter "TYPE" "CAST")
  | some t =>
    match t with
    | .named "CHAR" _ =>
      if ← keyword "CHARACTER SET" then return .characterSet ((← wordOrText).getD .null)
      return t
    | _ => return t

/-- A value and the type that it is cast to. -/
def castArguments (n : Nested) (kind : String) : Reader Expr := do
  let e ← required n.condition
  if !(← keyword "ALIAS") then
    if ← mark "," then
      let t ← required textToken
      return ← noted (Function.named "casttostrtype" "CAST_TO_STR_TYPE" (some e) [e, .text t])
    fault (.expectedAfter "AS" "CAST")
  noted (.cast kind e (← castTarget n))

/-- A value and a type, or a value and a character set. -/
def convertArguments (n : Nested) : Reader Expr := do
  let e ← required n.sum
  if ← keyword "USING" then
    match ← takeIf fun t => t.kind == .word || t.kind == .type "BINARY" with
    | some t =>
      let set ← noted (.word t.text)
      return ← noted (.cast "cast" e (.characterSet set))
    | none => fault .missingOperand
  if ← mark "," then
    match ← n.type false true with
    | some t => return ← noted (.cast "cast" e t)
    | none => fault .missingOperand
  fault .missingOperand

/-- A part of a time and the time. -/
def extractArguments (n : Nested) : Reader Expr := do
  let part ← (do
    match ← textToken with
    | some s => noted (.text s)
    | none => return (← capitalWord).getD .null)
  if !(← (keyword "FROM" <||> mark ",")) then
    faultAtLast (.expectedAfter "FROM or comma" "EXTRACT")
  let e ← required n.sum
  noted (Function.ofParts "extract" (some part)
    [.text "EXTRACT(", .value part, .text " FROM ", .value e, .text ")"])

/-- A part of a time as a text in front of the time. -/
def partArguments (n : Nested) : Reader Expr := do
  let part ← required n.value
  let _ ← mark ","
  let e ← required n.sum
  let unit := match part.bare with
    | .column _ last => .word last.plainName
    | .text s | .number s => .word s
    | _ => part
  noted (Function.ofParts "extract" (some unit)
    [.text "EXTRACT(", .value unit, .text " FROM ", .value e, .text ")"])

/-- Where a part of a text starts and how long it is, behind words. -/
def substringBounds (n : Nested) : Reader (Option Expr × Option Expr) := do
  let step (bounds : Option Expr × Option Expr) : Reader (Option (Option Expr × Option Expr)) := do
    if ← keyword "FROM" then return some (← n.sum, bounds.2)
    if ← keyword "FOR" then
      return some (bounds.1.or (some (.number "1")), ← n.sum)
    return none
  extend step (none, none)

def substringArguments (d : Dialect) (n : Nested) : Reader Expr := do
  let es ← values n.sum
  let (start, size) ← substringBounds n
  let all := es ++ start.toList ++ size.toList
  built (Function.atMost 3 all (Function.substring d all))

/-- The side of a text, the characters that are cut off there, and the text. -/
def trimArguments (d : Dialect) (n : Nested) : Reader Expr := do
  let side ← oneOf ["BOTH", "LEADING", "TRAILING"]
  let first ← n.sum
  if ← keyword "FROM" then
    let e ← required n.sum
    return ← noted (Function.trim d side e first)
  let e ← (match first with
    | some e => pure e
    | none => fault .missingOperand)
  let chars ← (do if ← mark "," then n.sum else return none)
  noted (Function.trim d side e chars)

/-- A text and the text in which it is looked for. -/
def positionArguments (d : Dialect) (n : Nested) : Reader Expr := do
  let es ← values n.sum
  if ← keyword "IN" then
    let whole ← required n.sum
    return ← noted (Function.placeOf d whole (es.head?.getD .null) none)
  match es with
  | part :: whole :: rest => noted (Function.placeOf d whole part rest.head?)
  | _ => fault .missingOperand

/-- A number that is rounded to a count of digits or to a unit. -/
def roundingArguments (kind name : String) (argument : Reader (Option Expr)) : Reader Expr := do
  let es ← values argument
  let unit ← (do if ← word "TO" then plainWord else return none)
  let back : List Part := match unit with
    | some w => [.text (" TO " ++ w)]
    | none => []
  return Function.ofParts kind es[0]?
    (.text (name ++ "(") :: Part.list (es.take 2) ++ back ++ [.text ")"])

/-- A text, what is put into it, and where. -/
def overlayArguments (n : Nested) : Reader Expr := do
  let e ← required n.sum
  let behind (w : String) : Reader (List Part) := do
    if ← (mark "," <||> word w) then
      return [.text (" " ++ w ++ " "), .value (← required n.sum)]
    return []
  let new ← behind "PLACING"
  let start ← behind "FROM"
  let size ← behind "FOR"
  noted (Function.ofParts "overlay" (some e)
    (.text "OVERLAY(" :: .value e :: new ++ start ++ size ++ [.text ")"]))

/-- A condition under which two values count as the same. -/
def sameValue (e pattern : Expr) : Expr :=
  let equal (p : Expr) : Expr := .binary Operator.equal [] e p
  let isNull (e : Expr) : Expr := .binary Operator.is [] e .null
  match pattern.bare with
  | .text _ | .number _ => equal pattern
  | .null => isNull e
  | _ =>
    let p := pattern.wrapped
    .binary Operator.disjunction [] (equal p)
      (.paren (.binary Operator.conjunction [] (isNull e) (isNull p)))

/-- Pairs of values that a value is compared with and of results, and perhaps another result. -/
def decodeBranches (e : Expr) : List Expr → List (Expr × Expr) × Option Expr
  | p :: v :: rest =>
    let (branches, otherwise) := decodeBranches e rest
    ((sameValue e p, v) :: branches, otherwise)
  | rest => ([], rest.head?)

def decodeArguments (n : Nested) : Reader Expr := do
  match ← values n.condition with
  | e :: p :: v :: rest =>
    let (branches, otherwise) := decodeBranches e (p :: v :: rest)
    noted (.known "decodecase" none (Function.caseParts none branches otherwise))
  | es => noted (Function.named "decode" "DECODE" es[0]? es)

/-- A text and the form that it is brought to. -/
def normalizeArguments (n : Nested) : Reader Expr := do
  let e ← required n.sum
  let form ← (do if ← mark "," then plainWord else return none)
  noted (Function.named "normalize" "NORMALIZE" (some e) (e :: (form.map Expr.word).toList))

/-- A key of a JSON object with its value. -/
def jsonEntry (d : Dialect) (n : Nested) : Reader (Option Expr) := do
  let _ ← word "KEY"
  let key ← n.column
  let _ ← takeIf fun t => t.isMark ":" || t.isMark "," || t.isKeyword "IS"
  let _ ← word "VALUE"
  let value ← n.sum
  match key, value with
  | none, none => return none
  | _, _ =>
    let separator := if d == .postgresql then ": " else ", "
    some <$> noted (.phrase "jsonkeyvalue" (key.bind Expr.heart?)
      ((key.map Part.value).toList ++ .text separator :: (value.map Part.value).toList))

def jsonObjectArguments (d : Dialect) (n : Nested) (kind name : String) : Reader Expr := do
  let entries ← (do if ← mark "*" then return [← noted .star] else values (jsonEntry d n))
  let nulls ← (do
    if ← words ["NULL", "ON", "NULL"] then return " NULL ON NULL"
    if ← words ["ABSENT", "ON", "NULL"] then return " ABSENT ON NULL"
    return "")
  noted (.known kind none
    (.text (name ++ "(") :: Part.list entries ++ [.text (nulls ++ ")")]))

/-- The texts of all rows and what separates them, with the order of the rows. -/
def stringAggArguments (d : Dialect) (n : Nested) : Reader Expr := do
  let distinct ← keyword "DISTINCT"
  let es ← (do
    if distinct then
      let e ← noted (.distinct [← required n.condition])
      if ← mark "," then return e :: (← values n.condition) else return [e]
    else values n.condition)
  let start ← get
  match es with
  | [] => fault .missingOperand
  | e :: rest =>
    if !(← nextIsMark ")") then
      let e ← inOrder d n e
      return ← noted (Function.textOfRows d e rest.head?)
    let _ ← next
    if ← words ["WITHIN", "GROUP"] then
      expectMark "("
      let e ← inOrder d n e
      return ← noted (Function.textOfRows d e rest.head?)
    backTo start
    built (Function.atMost 3 es (Function.textOfRows d e rest.head?))

/-- Several values as one text. -/
def joinedTexts (d : Dialect) (es : List Expr) : Expr :=
  match es with
  | [e] =>
    match e.bare with
    | .distinct (a :: b :: rest) => .distinct [Function.concatenated d (a :: b :: rest)]
    | _ => e
  | es => Function.concatenated d es

/-- The texts of all rows in MySQL, with the separator behind its word. -/
def groupConcatArguments (d : Dialect) (n : Nested) (argument : Reader (Option Expr)) :
    Reader Expr := do
  let es ← values argument
  let e := match es.reverse with
    | [] => none
    | last :: front =>
      match last.bare with
      | .sorted e keys => some (.sorted (joinedTexts d (front.reverse ++ [e])) keys)
      | _ => some (joinedTexts d es)
  let separator ← (do if ← keyword "SEPARATOR" then n.column else return none)
  match e with
  | some e => noted (Function.textOfRows d e separator)
  | none => fault .missingOperand

/-- Codes of characters, with their character set. -/
def characterArguments (d : Dialect) (n : Nested) : Reader Expr := do
  let es ← values n.condition
  let set ← (do if ← keyword "USING" then plainWord else return none)
  noted (Function.characters d es (set.map Expr.word))

/-- What kind of search a text stands for. -/
def searchMode : Reader String := do
  if ← words ["IN", "NATURAL", "LANGUAGE", "MODE"] then
    if ← words ["WITH", "QUERY", "EXPANSION"] then
      return " IN NATURAL LANGUAGE MODE WITH QUERY EXPANSION"
    return " IN NATURAL LANGUAGE MODE"
  if ← words ["IN", "BOOLEAN", "MODE"] then return " IN BOOLEAN MODE"
  if ← words ["WITH", "QUERY", "EXPANSION"] then return " WITH QUERY EXPANSION"
  return ""

/-- A search for a text in some columns. PostgreSQL has an operator for it. -/
def searchIn (d : Dialect) (columns : List Expr) (text : Expr) (mode : String) : Expr :=
  let written : List Part := match d with
    | .postgresql =>
      let each := columns.map fun c => [Part.value c, .text " @@ ", .value text]
      match each with
      | [one] => one
      | each => .text "(" :: List.flatten (each.intersperse [.text " OR "]) ++ [.text ")"]
    | _ => Function.callParts "MATCH" columns ++
        [.text " AGAINST(", .value text, .text (mode ++ ")")]
  Function.ofParts "matchagainst" (some text) written

def searchArguments (d : Dialect) (n : Nested) : Reader Expr := do
  let columns ← values n.column
  let _ ← words [")", "AGAINST", "("]
  match ← textToken with
  | none => fault .missingOperand
  | some s =>
    let text ← noted (.text s)
    let mode ← searchMode
    noted (searchIn d columns text mode)

/-- A part of a JSON value by its path. -/
def jsonValueArguments (d : Dialect) (n : Nested) : Reader Expr := do
  let e ← required n.sum
  let _ ← mark ","
  let path ← required n.sum
  let path := match Function.jsonPath? path with
    | some steps => Function.jsonPathText d steps
    | none => path
  let type ← (do
    if ← keyword "RETURNING" then
      match ← n.type false true with
      | some t => return [Part.text " RETURNING ", .value (.typed t)]
      | none => return []
    return [])
  noted (Function.ofParts "jsonvalue" (some e)
    (.text "JSON_VALUE(" :: .value e :: .text ", " :: .value path :: type ++ [.text ")"]))

/-- The values that a row would have had. -/
def newValue : Reader Expr := do
  let i ← required anyName
  noted (.call { text := "VALUES" } [.name i])

/-- The values of all rows as a JSON array. -/
def jsonAggArguments (d : Dialect) (n : Nested) (argument : Reader (Option Expr)) :
    Reader Expr := do
  let e ← required argument
  let order ← orderClause d n true
  noted (Function.ofParts "jsonarrayagg" (some e)
    (.text "JSON_AGG(" :: .value e :: (order.map Part.value).toList ++ [.text ")"]))

/-- The reader of the arguments of a function that has its own one, by the name in upper case. -/
def argumentsOf? (d : Dialect) (n : Nested) (argument : Reader (Option Expr)) (name : String) :
    Option (Reader Expr) :=
  match name with
  | "CAST" => some (castArguments n "cast")
  | "TRY_CAST" => some (castArguments n "trycast")
  | "SAFE_CAST" => some (castArguments n "trycast")
  | "CONVERT" => some (convertArguments n)
  | "EXTRACT" => some (extractArguments n)
  | "SUBSTRING" => some (substringArguments d n)
  | "TRIM" => some (trimArguments d n)
  | "POSITION" => some (positionArguments d n)
  | "CEIL" => some (roundingArguments "ceil" "CEIL" argument)
  | "FLOOR" => some (roundingArguments "floor" "FLOOR" argument)
  | "OVERLAY" => some (overlayArguments n)
  | "DECODE" => some (decodeArguments n)
  | "NORMALIZE" => some (normalizeArguments n)
  | "JSON_OBJECT" => some (jsonObjectArguments d n "jsonobject" "JSON_OBJECT")
  | "JSON_OBJECTAGG" => some (jsonObjectArguments d n "jsonobjectagg" "JSON_OBJECTAGG")
  | "STRING_AGG" => some (stringAggArguments d n)
  | "CHAR" => some (characterArguments d n)
  | "CHR" => some (characterArguments d n)
  | "MATCH" => some (searchArguments d n)
  | _ =>
    match d, name with
    | .postgresql, "DATE_PART" => some (partArguments n)
    | .postgresql, "JSON_AGG" => some (jsonAggArguments d n argument)
    | .mysql, "SUBSTR" => some (substringArguments d n)
    | .mysql, "GROUP_CONCAT" => some (groupConcatArguments d n argument)
    | .mysql, "VALUES" => some newValue
    | .mysql, "JSON_VALUE" => some (jsonValueArguments d n)
    | _, _ => none

end SchemaDesk.Sql.Grammar
