import SchemaDesk.Dialect
import SchemaDesk.Schema
/-!
The type of a column as a dialect writes it.
-/

namespace SchemaDesk

/-- The number unless it is absent or zero. -/
def positiveOr (n : Option Int) (default : Int) : Int :=
  match n with
  | none => default
  | some k => if k == 0 then default else k

namespace ColumnType

/-- The storage class that SQLite has for a type. -/
def affinity : ColumnType → String
  | smallint | int | integer | bigint | smallserial | serial | bigserial | boolean => "INTEGER"
  | decimal | numeric | real | doublePrecision | float | money => "REAL"
  | bytea => "BLOB"
  | _ => "TEXT"

end ColumnType

namespace Column

def withNumber (name : String) (n : Int) : String := name ++ "(" ++ Text.intText n ++ ")"

def decimalText (c : Column) : String :=
  c.type.name ++ "(" ++ Text.intText (c.precision.getD 10) ++ "," ++ Text.intText (c.scale.getD 2) ++
    ")"

/-- PostgreSQL has all types by their own names. -/
def postgresqlType (c : Column) : String :=
  match c.type with
  | .decimal | .numeric => c.decimalText
  | .char => withNumber "CHAR" (positiveOr c.length 1)
  | .varchar => withNumber "VARCHAR" (positiveOr c.length 255)
  | .bit => withNumber "BIT" (positiveOr c.length 1)
  | .varbit => withNumber "VARBIT" (positiveOr c.length 64)
  | .vector | .halfvec | .sparsevec =>
    match c.dimension with
    | none => c.type.name
    | some n => if n == 0 then c.type.name else withNumber c.type.name n
  | t => t.name

/-- MySQL stores types that it does not have as texts or as JSON, and marks columns that count up. -/
def mysqlType (c : Column) : String :=
  match c.type with
  | .decimal | .numeric => c.decimalText
  | .real => "FLOAT"
  | .doublePrecision => "DOUBLE"
  | .money => "DECIMAL(19,4)"
  | .smallserial => "SMALLINT AUTO_INCREMENT"
  | .serial => "INT AUTO_INCREMENT"
  | .bigserial => "BIGINT AUTO_INCREMENT"
  | .char => withNumber "CHAR" (positiveOr c.length 1)
  | .varchar => withNumber "VARCHAR" (positiveOr c.length 255)
  | .bytea => "BLOB"
  | .timetz => "TIME"
  | .timestamptz => "TIMESTAMP"
  | .interval => "VARCHAR(255)"
  | .boolean => "TINYINT(1)"
  | .point | .line | .lseg | .box | .path | .polygon | .circle | .tsvector | .tsquery | .xml => "TEXT"
  | .cidr | .inet => "VARCHAR(45)"
  | .macaddr => "VARCHAR(17)"
  | .macaddr8 => "VARCHAR(23)"
  | .bit => withNumber "BIT" (positiveOr c.length 1)
  | .varbit => withNumber "BIT" (positiveOr c.length 64)
  | .jsonb | .vector | .halfvec | .sparsevec => "JSON"
  | .uuid => "CHAR(36)"
  | t => t.name

def typeText (c : Column) : Dialect → String
  | .postgresql => c.postgresqlType
  | .mysql => c.mysqlType
  | .sqlite => c.type.affinity

end Column

end SchemaDesk
