import SchemaDesk.Sql.Grammar.Item
/-!
The properties of tables and other things, in front of their kind and behind their definition. They
are read to find their end.
-/

namespace SchemaDesk.Sql.Grammar

open Reader

/-- Properties that are a word alone. -/
def flagWords : List String := [
  "DETERMINISTIC", "DYNAMIC", "EXTERNAL", "FALLBACK", "GLOBAL", "HEAP", "ICEBERG", "IMMUTABLE",
  "LOG", "MATERIALIZED", "MULTISET", "SECURE", "SET", "STABLE", "STREAMING", "STRICT", "TEMP",
  "TEMPORARY", "TRANSIENT", "UNLOGGED", "VOLATILE"]

/-- Properties that are a word and a value. -/
def assignedWords (d : Dialect) : List String := [
  "ALGORITHM", "AUTO_INCREMENT", "COLLATE", "COMMENT", "ENGINE", "FORMAT", "LANGUAGE", "LOCATION",
  "ROW_FORMAT", "USING"] ++ if d == .mysql then ["LOCK"] else []

def characterSetWords : List String := ["CHARSET", "CHARACTER SET"]

def otherPropertyWords : List String := [
  "CHECKSUM", "CLUSTER BY", "DEFINER", "INHERITS", "LIKE", "ON", "ORDER BY", "PARTITION",
  "PARTITION BY", "PARTITIONED BY", "PRIMARY KEY", "RETURNS", "SECURITY", "TO", "WITH"]

def propertyWords (d : Dialect) : List String :=
  flagWords ++ assignedWords d ++ characterSetWords ++ otherPropertyWords

/-- A value behind an equals sign, which may be missing. -/
def assignedValue (d : Dialect) (n : Nested) : Reader (Option Unit) := do
  let _ ← mark "="
  let _ ← keyword "ALIAS"
  let _ ← plainField d n
  return some ()

/-- `ON COMMIT` or the place of the data. -/
def onProperty (columns : ColumnList) : Reader Unit := do
  if ← words ["COMMIT", "PRESERVE", "ROWS"] then return ()
  if ← words ["COMMIT", "DELETE", "ROWS"] then return ()
  let _ ← anyName
  let _ ← columns

/-- The values that belong to a partition. -/
def partitionBound (n : Nested) : Reader Unit := do
  if ← keyword "IN" then
    let _ ← wrapped (values n.sum)
  else if ← keyword "FROM" then
    let _ ← wrapped (values n.sum)
    let _ ← word "TO"
    let _ ← wrapped (values n.sum)
  else if ← words ["WITH", "(", "MODULUS"] then
    let _ ← n.sum
    let _ ← mark ","
    let _ ← word "REMAINDER"
    let _ ← n.sum
    expectMark ")"

/-- A partition of another table. -/
def partitionOf (n : Nested) (columns : ColumnList) : Reader (Option Unit) := do
  if !(← word "OF") then return none
  let _ ← tableWithColumns columns
  if ← keyword "DEFAULT" then return some ()
  if ← words ["FOR", "VALUES"] then
    partitionBound n
    return some ()
  fault (.expected "either DEFAULT or FOR VALUES clause.")

/-- Parameters or other details behind `WITH`. -/
def withProperty (d : Dialect) (n : Nested) : Reader (Option Unit) := do
  if ← nextIsMark "(" then
    let _ ← wrapped (items (storageParameter d n))
    return some ()
  if ← word "DATA" then return some ()
  if ← words ["NO", "DATA"] then return some ()
  return none

/-- The property that starts with a word, behind the word. -/
def propertyOf (d : Dialect) (n : Nested) (columns : ColumnList) (start : String) :
    Reader (Option Unit) := do
  if flagWords.contains start then return some ()
  if (assignedWords d).contains start then return ← assignedValue d n
  if characterSetWords.contains start then
    let _ ← mark "="
    let _ ← wordOrText
    return some ()
  match start with
  | "CHECKSUM" => do
    let _ ← mark "="
    let _ ← oneOf ["ON", "OFF"]
    let _ ← keyword "DEFAULT"
    return some ()
  | "CLUSTER BY" => do
    let _ ← wrapped (values (ordered d n true))
    return some ()
  | "DEFINER" => do
    let _ ← mark "="
    let _ ← anyName
    let _ ← mark "@"
    let _ ← anyName
    return some ()
  | "INHERITS" => do
    let _ ← wrapped (items do return some (← tableName))
    return some ()
  | "LIKE" => do
    let _ ← likeRule d n columns
    return some ()
  | "ON" => do
    onProperty columns
    return some ()
  | "ORDER BY" => do
    let _ ← values (ordered d n true)
    return some ()
  | "PARTITION" => partitionOf n columns
  | "PRIMARY KEY" => do
    let _ ← wrapped (values (primaryKeyPart d n))
    return some ()
  | "RETURNS" => do
    let _ ← n.type false true
    return some ()
  | "SECURITY" => do
    let _ ← oneOf ["DEFINER", "INVOKER"]
    return some ()
  | "TO" => do
    let _ ← tableName
    return some ()
  | "WITH" => withProperty d n
  | _ => do
    let _ ← mark "="
    if (← columns).isNone then
      let _ ← plainField d n
    return some ()

/-- An option of a sequence; commas between them are read as well. -/
def sequenceOption (n : Nested) : Reader (Option Unit) := do
  let comma ← mark ","
  let found ← (do
    match ← oneOf ["INCREMENT", "MINVALUE", "MAXVALUE", "START", "START WITH", "CACHE"] with
    | some _ =>
      let _ ← oneOf ["BY", "WITH"]
      let _ ← mark "="
      let _ ← n.sum
      return true
    | none =>
      if ← words ["OWNED", "BY"] then
        let _ ← n.value
        return true
      return (← phraseOf [["NO", "CYCLE"], ["NO", "CACHE"], ["NO", "MAXVALUE"], ["NO", "MINVALUE"],
        ["CYCLE"], ["NOCYCLE"], ["NOCACHE"], ["ORDER"], ["NOORDER"], ["SESSION"], ["GLOBAL"],
        ["KEEP"], ["NOKEEP"], ["NOMINVALUE"], ["NOMAXVALUE"]]).isSome)
  return if comma || found then some () else none

/-- A property by its word, by an option of a sequence, or by a name and a value. -/
def property (d : Dialect) (n : Nested) (columns : ColumnList) : Reader (Option Unit) := do
  match ← oneOf (propertyWords d) with
  | some w => propertyOf d n columns w
  | none =>
    let start ← get
    if ← keyword "DEFAULT" then
      match ← oneOf (propertyWords d) with
      | some w => return ← propertyOf d n columns w
      | none => pure ()
    if ← words ["SQL", "SECURITY"] then
      let _ ← oneOf ["DEFINER", "INVOKER"]
      return some ()
    match ← sequenceOption n with
    | some _ => return some ()
    | none =>
      let _ ← column d n
      if ← mark "=" then
        let _ ← orElse n.sum do return (← anyWord).map .word
        return some ()
      backTo start
      return none

/-- Properties, with the count of them. -/
def properties (d : Dialect) (n : Nested) (columns : ColumnList) : Reader Nat := do
  return (← many (property d n columns)).length

/-- A property in front of a definition. -/
def earlyProperty (d : Dialect) (n : Nested) (columns : ColumnList) : Reader (Option Unit) := do
  let _ ← mark ","
  let _ ← word "NO"
  let _ ← word "DEFAULT"
  match ← oneOf (propertyWords d) with
  | some w => propertyOf d n columns w
  | none => return none

end SchemaDesk.Sql.Grammar
