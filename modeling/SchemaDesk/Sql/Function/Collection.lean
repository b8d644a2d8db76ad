import SchemaDesk.Sql.Function.JsonPath
import SchemaDesk.Sql.Function.Signature
/-!
Functions of arrays and JSON values that are written in different ways. A part of a JSON value is
taken by a path, which PostgreSQL writes as a chain of keys.
-/

namespace SchemaDesk.Sql.Function

/-- What names a part of a JSON value: its path, or another expression. -/
def jsonPath? (e : Expr) : Option (List PathStep) :=
  match e.bare with
  | .text s => PathStep.read? s
  | .number s => PathStep.read? ("[" ++ s ++ "]")
  | _ => none

/-- The steps to single parts as the keys of PostgreSQL; places in an array are numbers, or texts if
`quoted`. -/
def jsonKeys (quoted : Bool) (steps : List PathStep) : List Expr :=
  steps.filterMap fun
    | .key s => if s == "" then none else some (.text s)
    | .item n =>
      some (if quoted then .text (Text.intText n) else .number (Text.intText n))
    | _ => none

/-- A path in quotation marks. SQLite knows only single parts. -/
def jsonPathText (d : Dialect) (steps : List PathStep) : Expr :=
  .text (PathStep.path (if d == .sqlite then steps.filter PathStep.isSingle else steps))

/-- A part of a JSON value by an arrow, as JSON or as text. -/
def jsonArrow (d : Dialect) (asText : Bool) (e path : Expr) : Expr :=
  let arrow := if asText then "->>" else "->"
  let operator (form : OperatorForm) : Operator :=
    if asText then Operator.jsonText form else Operator.jsonPart form
  let kind := (operator (.between arrow)).kind
  match d with
  | .postgresql =>
    match jsonPath? path with
    | some steps =>
      match jsonKeys false steps with
      | [] => ofParts kind (some e) [.value e]
      | keys => keys.foldl (.binary (operator (.between arrow)) []) e
    | none =>
      .binary (operator (.call (if asText then "JSON_EXTRACT_PATH_TEXT" else "JSON_EXTRACT_PATH")))
        [] e path
  | _ =>
    let path := match jsonPath? path with
      | some steps => jsonPathText d steps
      | none => path
    let form := if d == .mysql && !asText then OperatorForm.call "JSON_EXTRACT" else .between arrow
    .binary (operator form) [] e path

/-- A part of a JSON value by a function. -/
def jsonPart (d : Dialect) (asText : Bool) : Builder
  | e :: path :: more =>
    match d with
    | .postgresql =>
      let name := if asText then "JSON_EXTRACT_PATH_TEXT" else "JSON_EXTRACT_PATH"
      let keys := match jsonPath? path with
        | some steps => jsonKeys true steps
        | none => [path]
      .ok (named (if asText then "jsonextractscalar" else "jsonextract") name (some e) (e :: keys))
    | .mysql =>
      if more.isEmpty || asText then .ok (jsonArrow d asText e path)
      else
        let first := match jsonPath? path with
          | some steps => jsonPathText d steps
          | none => path
        .ok (named "jsonextract" "JSON_EXTRACT" (some e) (e :: first :: more))
    | .sqlite => .ok (jsonArrow d asText e path)
  | es => .ok (named "jsonextract" "JSON_EXTRACT" es[0]? es)

/-- A value read as JSON, which only PostgreSQL says by a cast. -/
def jsonOf (d : Dialect) (e : Expr) : Expr :=
  ofParts "parsejson" (some e) [.value (if d == .postgresql then castTo "JSON" e else e)]

/-- The length of an array. PostgreSQL asks for the dimension, and the others know only one. -/
def arrayLength (d : Dialect) : Builder := fun es =>
  let written := match d, es with
    | .postgresql, [e] => [e, .number "1"]
    | .postgresql, es => es
    | _, es => es.take 1
  atMost 2 es (named "arraysize" "ARRAY_LENGTH" es[0]? written)

/-- Arrays put together. PostgreSQL takes two at a time. -/
def arrayConcat (d : Dialect) : Builder
  | e :: rest =>
    let call (es : List Expr) : Expr := named "arrayconcat" "ARRAY_CAT" es[0]? es
    .ok (match d, rest with
      | .postgresql, [] => call [e, .array []]
      | .postgresql, f :: more => call [e, more.foldl (fun l r => call [l, r]) f]
      | _, rest => call (e :: rest))
  | [] => .ok (named "arrayconcat" "ARRAY_CAT" none [])

/-- An operator between two arrays. -/
def arrayOperator (operator : Operator) : Builder
  | es@(a :: b :: _) => atMost 2 es (.binary operator [] a b)
  | es => .ok (named operator.kind "ARRAY" es[0]? es)

/-- A value is an element of a JSON array. -/
def jsonMember (d : Dialect) (e array : Expr) : Expr :=
  match d with
  | .mysql =>
    ofParts "jsonarraycontains" (some e) [.value e, .text " MEMBER OF(", .value array, .text ")"]
  | _ => named "jsonarraycontains" "JSON_ARRAY_CONTAINS" (some e) [e, array]

/-- A field of a record has its name behind it. -/
def field (e : Expr) : Expr :=
  match e.bare with
  | .binary o _ l r =>
    if o.kind == "eq" || o.kind == "propertyeq" then .aliased r { text := l.ownName } else e
  | _ => e

/-- A record of some fields. -/
def record (es : List Expr) : Expr := named "struct" "STRUCT" none (es.map field)

def collectionFunction? (d : Dialect) (name : String) : Option Builder :=
  match name with
  | "JSON_EXTRACT" => some (jsonPart d false)
  | "JSON_EXTRACT_SCALAR" => some (jsonPart d true)
  | "JSON_EXTRACT_PATH_TEXT" => some (if d == .postgresql then jsonByKeys true else jsonPart d true)
  | "JSON_EXTRACT_PATH" => if d == .postgresql then some (jsonByKeys false) else none
  | "PARSE_JSON" => some parsed
  | "JSON_PARSE" => some parsed
  | "ARRAY_LENGTH" => some (arrayLength d)
  | "ARRAY_SIZE" => some (arrayLength d)
  | "ARRAY_CAT" => some (arrayConcat d)
  | "ARRAY_CONCAT" => some (arrayConcat d)
  | "ARRAY_OVERLAPS" => some (arrayOperator Operator.meets)
  | "ARRAY_CONTAINS_ALL" => some (arrayOperator Operator.containsAll)
  | "ARRAY_HAS_ALL" => some (arrayOperator Operator.containsAll)
  | "JSONB_CONTAINS" => some (arrayOperator (Operator.hasKey d))
  | "JSONB_EXTRACT" => some (arrayOperator (Operator.atPath d))
  | "JSONB_EXTRACT_SCALAR" => some (arrayOperator (Operator.textAtPath d))
  | "JSON_ARRAY_CONTAINS" => some member
  | "ARRAY" => some fun es => .ok (.array es)
  | "STRUCT" => some fun es => .ok (record es)
  | "UNNEST" =>
    some fun es => .ok (named (if d == .postgresql then "explode" else "unnest") "UNNEST"
      (if d == .postgresql then es[0]? else none) es)
  | "EXPLODE" => if d == .postgresql then some fun es => .ok (named "explode" "UNNEST" es[0]? es) else none
  | _ => none
where
  /-- A part by keys that are arguments of their own. -/
  jsonByKeys (asText : Bool) : Builder := fun es =>
    let key (e : Expr) : Expr :=
      match e.bare with
      | .number s => .text s
      | _ => e
    .ok (named (if asText then "jsonextractscalar" else "jsonextract")
      (if asText then "JSON_EXTRACT_PATH_TEXT" else "JSON_EXTRACT_PATH") es[0]?
      (es.take 1 ++ (es.drop 1).map key))
  parsed : Builder := fun es =>
    match es with
    | e :: _ => atMost 3 es (jsonOf d e)
    | [] => .ok .null
  member : Builder := fun es =>
    match es with
    | [e, array] => .ok (jsonMember d e array)
    | es => atMost 3 es (named "jsonarraycontains" "JSON_ARRAY_CONTAINS" es[0]? es)

end SchemaDesk.Sql.Function
