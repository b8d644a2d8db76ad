import SchemaDesk.Sql.Kind
import SchemaDesk.Sql.Reader
/-!
Names: which words may stand for one, and how names of tables are qualified.
-/

namespace SchemaDesk.Sql.Grammar

open Reader

/-- Known words that may still be a name where a statement is not already clear. -/
def nameWords : List String := [
  "ALL", "ANALYZE", "ANTI", "ANY", "APPLY", "ARRAY", "ASC", "ASOF", "ATTACH", "AUTO_INCREMENT",
  "BEGIN", "CACHE", "CASE", "COLLATE", "COLUMN", "COMMAND", "COMMENT", "COMMIT", "CONSTRAINT",
  "COPY", "CUBE", "CURRENT_CATALOG", "CURRENT_DATE", "CURRENT_SCHEMA", "CURRENT_TIME",
  "CURRENT_TIMESTAMP", "CURRENT_USER", "DATABASE", "DEFAULT", "DELETE", "DESC", "DESCRIBE",
  "DETACH", "DIV", "END", "ESCAPE", "EXECUTE", "EXISTS", "FALSE", "FILTER", "FIRST", "FOREIGN KEY",
  "FORMAT", "FULL", "FUNCTION", "INDEX", "IS", "ISNULL", "KEEP", "KILL", "LEFT", "LIMIT", "LOAD",
  "LOCALTIME", "LOCALTIMESTAMP", "LOCK", "MATCH", "MERGE", "NAMESPACE", "NATURAL", "NEXT", "OFFSET",
  "OPERATOR", "ORDINALITY", "OVERLAPS", "OVERWRITE", "PARTITION", "PERCENT", "PIVOT", "PRAGMA",
  "PROCEDURE", "RANGE", "RECURSIVE", "REFERENCES", "RENAME", "REPLACE", "RIGHT", "ROLLUP", "ROW",
  "ROWS", "SCHEMA", "SEMI", "SEQUENCE", "SESSION_USER", "SET", "SETTINGS", "SHOW", "SOME", "TABLE",
  "TEMPORARY", "TRIGGER", "TRUE", "TRUNCATE", "UNIQUE", "UNNEST", "UNPIVOT", "UPDATE", "USE", "VIEW",
  "VOLATILE", "WINDOW"]

/-- Marks, the word `SELECT` and the word `NOT` are never names. -/
def isReserved (t : Token) : Bool :=
  match t.kind with
  | .mark symbol => symbol.length == 1
  | .keyword name => name == "SELECT" || name == "NOT"
  | _ => false

/-- The token may be a name without quotation marks. -/
def isNameWord (t : Token) : Bool :=
  match t.kind with
  | .word => true
  | .type _ => true
  | .keyword name => nameWords.contains name
  | _ => false

/-- A name that is the last token, with the comments there. -/
def nameAt (t : Token) (quoted : Bool) : Reader Ident := do
  return { text := t.text, quoted, comments := ← takeComments }

def quotedName : Reader (Option Ident) := do
  match ← takeIf (·.kind == .quoted) with
  | some t => some <$> nameAt t true
  | none => return none

/-- A name in a place that admits some words only. -/
def nameAmong (admits : Token → Bool) : Reader (Option Ident) := do
  match ← quotedName with
  | some i => return some i
  | none =>
    match ← takeIf admits with
    | some t => some <$> nameAt t (t.kind == .text)
    | none => return none

/-- A name in a place that admits the words that may be a name. -/
def name : Reader (Option Ident) := nameAmong isNameWord

/-- A name in a place that admits every word that is not reserved. -/
def anyName : Reader (Option Ident) := nameAmong (!isReserved ·)

/-- Names between commas. The comments of a comma belong to the name in front of it. -/
def names : Reader (List Ident) := do
  let atComma (i : Ident) : Reader Ident := do
    return { i with comments := i.comments ++ (← takeComments) }
  moreItems anyName atComma (← anyName) (← remaining)

/-- Any word that is not reserved. -/
def anyWord : Reader (Option String) := do
  match ← takeIf fun t => !isReserved t with
  | some t => return some t.text
  | none => return none

/-- Any word that is not reserved, in capital letters, with the comments there. -/
def capitalWord : Reader (Option Expr) := do
  match ← anyWord with
  | some w => some <$> noted (.word (Text.upper w))
  | none => return none

/-- A word that no list knows. -/
def plainWord : Reader (Option String) := do
  match ← takeIf (·.kind == .word) with
  | some t => return some t.text
  | none => return none

def textToken : Reader (Option String) := do
  match ← takeIf (·.kind == .text) with
  | some t => return some t.text
  | none => return none

/-- A text in the place of a name. -/
def textName : Reader (Option Ident) := do
  match ← takeIf (·.kind == .text) with
  | some t => some <$> nameAt t true
  | none => return none

/-- The parts of the name of a table, between dots. -/
def tablePart : Reader (Option Ident) := orElse name textName

/-- The name of a table behind its first part. The comments of the last part are those of the
table. -/
def tableFrom (first : Ident) : Reader TableName := do
  let rest ← many do
    if ← mark "." then return some ((← tablePart).getD { text := "" })
    return none
  match (first :: rest).reverse with
  | [] => return { qualifiers := [], name := first }
  | last :: qualifiers =>
    return {
      qualifiers := qualifiers.reverse
      name := { last with comments := [] }
      comments := last.comments }

def tableName : Reader TableName := do
  match ← tablePart with
  | none => fault .expectedTableName
  | some first => tableFrom first

/-- `IF EXISTS`, or `IF NOT EXISTS`. The words that are there are stepped over, even if others are
missing. -/
def existsClause (negated : Bool) : Reader Bool :=
  word "IF" <&&> (pure !negated <||> keyword "NOT") <&&> keyword "EXISTS"

end SchemaDesk.Sql.Grammar
