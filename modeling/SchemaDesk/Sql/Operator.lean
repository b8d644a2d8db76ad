import SchemaDesk.Dialect
import SchemaDesk.Sql.Syntax
/-!
The operators between two operands. Some of them are written in another way in each dialect.
-/

namespace SchemaDesk.Sql.Operator

def symbol (kind symbol : String) : Operator := { kind, form := .between symbol }

/-- An operator that counts as a function. -/
def function (kind : String) (form : OperatorForm) : Operator := { kind, form, isFunction := true }

def member : Operator := { kind := "dot", form := .joined "." }

def add : Operator := symbol "add" "+"
def subtract : Operator := symbol "sub" "-"
def multiply : Operator := symbol "mul" "*"
def divide : Operator := symbol "div" "/"
def remainder : Operator := symbol "mod" "%"
def wholeDivide : Operator := symbol "intdiv" "DIV"
def distance : Operator := symbol "distance" "<->"
def concatenate : Operator := symbol "dpipe" "||"
def collate : Operator := function "collate" (.between "COLLATE")

def power (d : Dialect) : Operator :=
  function "pow" (if d == .postgresql then .between "^" else .call "POWER")

def bitAnd : Operator := symbol "bitwiseand" "&"
def bitOr : Operator := symbol "bitwiseor" "|"
def shiftLeft : Operator := symbol "bitwiseleftshift" "<<"
def shiftRight : Operator := symbol "bitwiserightshift" ">>"

def bitXor (d : Dialect) : Operator :=
  symbol "bitwisexor" (if d == .postgresql then "#" else "^")

def equal : Operator := symbol "eq" "="
def different : Operator := symbol "neq" "<>"
def less : Operator := symbol "lt" "<"
def lessEqual : Operator := symbol "lte" "<="
def greater : Operator := symbol "gt" ">"
def greaterEqual : Operator := symbol "gte" ">="

/-- Equality for which two nulls are equal. -/
def same (d : Dialect) : Operator :=
  symbol "nullsafeeq" (if d == .mysql then "<=>" else "IS NOT DISTINCT FROM")

def notSame (d : Dialect) : Operator :=
  { kind := "nullsafeneq"
    form := if d == .mysql then .notBetween "<=>" else .between "IS DISTINCT FROM" }

def is : Operator := symbol "is" "IS"
def conjunction : Operator := function "and" (.between "AND")
def disjunction : Operator := function "or" (.between "OR")
def exclusive : Operator := function "xor" (.between "XOR")
def assign : Operator := symbol "propertyeq" ":="
def keyword : Operator := symbol "kwarg" "=>"

def like : Operator := symbol "like" "LIKE"
def caselessLike : Operator := symbol "ilike" "ILIKE"
def escape : Operator := symbol "escape" "ESCAPE"
def glob : Operator := symbol "glob" "GLOB"
def search : Operator := symbol "match" "MATCH"
def similar : Operator := symbol "similarto" "SIMILAR TO"
def overlaps : Operator := symbol "overlaps" "OVERLAPS"

/-- A pattern that is a regular expression. Only PostgreSQL has a symbol for it. -/
def regular (d : Dialect) : Operator :=
  function "regexplike" (if d == .postgresql then .between "~" else .call "REGEXP_LIKE")

def caselessRegular (d : Dialect) : Operator :=
  function "regexpilike" (if d == .postgresql then .between "~*" else .call "REGEXP_ILIKE")

/-- An operator by its full name. -/
def called (name : String) : Operator := symbol "operator" ("OPERATOR(" ++ name ++ ")")

def containsAll : Operator := function "arraycontainsall" (.between "@>")
def meets : Operator := function "arrayoverlaps" (.between "&&")
def adjacent : Operator := symbol "adjacent" "-|-"
def extendsLeft : Operator := symbol "extendsleft" "&<"
def extendsRight : Operator := symbol "extendsright" "&>"

/-- A key at the top of a JSON value. -/
def hasKey (d : Dialect) : Operator :=
  function "jsonbcontains" (if d == .postgresql then .between "?" else .call "JSONB_CONTAINS")

def hasAllKeys : Operator := function "jsonbcontainsalltopkeys" (.between "?&")
def hasAnyKey : Operator := function "jsonbcontainsanytopkeys" (.between "?|")
def withoutPath : Operator := function "jsonbdeleteatpath" (.between "#-")

/-- A part of a JSON value by a path of keys. -/
def atPath (d : Dialect) : Operator :=
  function "jsonbextract" (if d == .postgresql then .between "#>" else .call "JSONB_EXTRACT")

def textAtPath (d : Dialect) : Operator :=
  function "jsonbextractscalar"
    (if d == .postgresql then .between "#>>" else .call "JSONB_EXTRACT_SCALAR")

/-- A part of a JSON value. -/
def jsonPart (form : OperatorForm) : Operator := function "jsonextract" form

def jsonText (form : OperatorForm) : Operator := function "jsonextractscalar" form

end SchemaDesk.Sql.Operator
