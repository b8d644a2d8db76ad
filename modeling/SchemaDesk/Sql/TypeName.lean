import SchemaDesk.Dialect
/-!
The names of types in each dialect, in the place of a type and as the target of a cast.
-/

namespace SchemaDesk.Sql

def commaList (items : List String) : String := ", ".intercalate items

/-- Texts between commas and parentheses, or nothing if there are none. -/
def listInParens (items : List String) : String :=
  if items.isEmpty then "" else "(" ++ commaList items ++ ")"

namespace TypeName

/-- The types that PostgreSQL writes in another way. -/
def postgresql : List (String × String) := [
  ("TINYINT", "SMALLINT"), ("FLOAT", "REAL"), ("DOUBLE", "DOUBLE PRECISION"), ("BINARY", "BYTEA"),
  ("VARBINARY", "BYTEA"), ("BLOB", "BYTEA"), ("DATETIME", "TIMESTAMP"),
  ("TIMESTAMPNTZ", "TIMESTAMP"), ("LONGBLOB", "BYTEA"), ("MEDIUMBLOB", "BYTEA"),
  ("TINYBLOB", "BYTEA")]

def mysql : List (String × String) := [
  ("UBIGINT", "BIGINT"), ("UINT", "INT"), ("UMEDIUMINT", "MEDIUMINT"), ("USMALLINT", "SMALLINT"),
  ("UTINYINT", "TINYINT"), ("UDECIMAL", "DECIMAL"), ("UDOUBLE", "DOUBLE"),
  ("TIMESTAMP", "DATETIME"), ("TIMESTAMPNTZ", "DATETIME"), ("TIMESTAMPTZ", "TIMESTAMP"),
  ("TIMESTAMPLTZ", "TIMESTAMP")]

def sqlite : List (String × String) := [
  ("BOOLEAN", "INTEGER"), ("TINYINT", "INTEGER"), ("SMALLINT", "INTEGER"), ("INT", "INTEGER"),
  ("BIGINT", "INTEGER"), ("FLOAT", "REAL"), ("DOUBLE", "REAL"), ("DECIMAL", "REAL"),
  ("CHAR", "TEXT"), ("NCHAR", "TEXT"), ("VARCHAR", "TEXT"), ("NVARCHAR", "TEXT"),
  ("BINARY", "BLOB"), ("VARBINARY", "BLOB"), ("LONGBLOB", "BLOB"), ("MEDIUMBLOB", "BLOB"),
  ("TINYBLOB", "BLOB")]

/-- The types that PostgreSQL and SQLite write in the same other way. -/
def common : List (String × String) := [
  ("NCHAR", "CHAR"), ("NVARCHAR", "VARCHAR")]

def families : List (String × String) := [
  ("LONGTEXT", "TEXT"), ("MEDIUMTEXT", "TEXT"), ("TINYTEXT", "TEXT")]

def table : Dialect → List (String × String)
  | .postgresql => postgresql ++ common ++ families
  | .mysql => mysql ++ common
  | .sqlite => sqlite ++ common ++ families

/-- The types that MySQL writes with the word `UNSIGNED`. -/
def unsigned : List String :=
  ["UBIGINT", "UINT", "UMEDIUMINT", "USMALLINT", "UTINYINT", "UDECIMAL", "UDOUBLE"]

/-- A type with the texts of its parameters. -/
def text (d : Dialect) (name : String) (parameters : List String) : String :=
  let written := ((table d).lookup name).getD name
  let suffix :=
    if name == "INTERVAL" && !parameters.isEmpty then " " ++ commaList parameters
    else listInParens parameters
  match d with
  | .postgresql =>
    if (name == "FLOAT" || name == "DOUBLE") && !parameters.isEmpty then "FLOAT" ++ suffix
    else written ++ suffix
  | .mysql =>
    if name == "VARCHAR" && parameters.isEmpty then "TEXT"
    else written ++ suffix ++ (if unsigned.contains name then " UNSIGNED" else "")
  | .sqlite => written ++ suffix

/-- The types to which MySQL casts under another name. -/
def mysqlTargets : List (String × String) := [
  ("BIGINT", "SIGNED"), ("BOOLEAN", "SIGNED"), ("INT", "SIGNED"), ("MEDIUMINT", "SIGNED"),
  ("SMALLINT", "SIGNED"), ("TINYINT", "SIGNED"), ("UBIGINT", "UNSIGNED"), ("LONGTEXT", "CHAR"),
  ("LONGBLOB", "CHAR"), ("MEDIUMBLOB", "CHAR"), ("MEDIUMTEXT", "CHAR"), ("TEXT", "CHAR"),
  ("TINYBLOB", "CHAR"), ("TINYTEXT", "CHAR"), ("VARCHAR", "CHAR")]

/-- A cast of a value to a type with the texts of its parameters. MySQL has a function for times with
a zone, and SQLite one for dates. -/
def cast (d : Dialect) (value name : String) (parameters : List String) : String :=
  let castTo (target : String) : String := "CAST(" ++ value ++ " AS " ++ target ++ ")"
  match d with
  | .mysql =>
    if name == "TIMESTAMPTZ" || name == "TIMESTAMPLTZ" then "TIMESTAMP(" ++ value ++ ")"
    else
      match mysqlTargets.lookup name with
      | some target => castTo (target ++ listInParens parameters)
      | none => castTo (text d name parameters)
  | .sqlite => if name == "DATE" then "DATE(" ++ value ++ ")" else castTo (text d name parameters)
  | .postgresql => castTo (text d name parameters)

end TypeName

end SchemaDesk.Sql
