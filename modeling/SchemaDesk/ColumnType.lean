import SchemaDesk.Failure
/-!
The column types that a schema knows, whatever a dialect calls them.
-/

namespace SchemaDesk

inductive ColumnType
  | smallint | int | integer | bigint | decimal | numeric | real | doublePrecision | float | money
  | smallserial | serial | bigserial
  | char | varchar | text | bytea
  | date | time | timetz | timestamp | timestamptz | interval
  | boolean
  | point | line | lseg | box | path | polygon | circle
  | cidr | inet | macaddr | macaddr8
  | bit | varbit
  | tsvector | tsquery
  | json | jsonb
  | uuid | xml
  | vector | halfvec | sparsevec
  deriving DecidableEq, Repr

namespace ColumnType

def all : List ColumnType :=
  [smallint, int, integer, bigint, decimal, numeric, real, doublePrecision, float, money,
    smallserial, serial, bigserial, char, varchar, text, bytea, date, time, timetz, timestamp,
    timestamptz, interval, boolean, point, line, lseg, box, path, polygon, circle, cidr, inet,
    macaddr, macaddr8, bit, varbit, tsvector, tsquery, json, jsonb, uuid, xml, vector, halfvec,
    sparsevec]

def name : ColumnType → String
  | smallint => "SMALLINT"
  | int => "INT"
  | integer => "INTEGER"
  | bigint => "BIGINT"
  | decimal => "DECIMAL"
  | numeric => "NUMERIC"
  | real => "REAL"
  | doublePrecision => "DOUBLE PRECISION"
  | float => "FLOAT"
  | money => "MONEY"
  | smallserial => "SMALLSERIAL"
  | serial => "SERIAL"
  | bigserial => "BIGSERIAL"
  | char => "CHAR"
  | varchar => "VARCHAR"
  | text => "TEXT"
  | bytea => "BYTEA"
  | date => "DATE"
  | time => "TIME"
  | timetz => "TIMETZ"
  | timestamp => "TIMESTAMP"
  | timestamptz => "TIMESTAMPTZ"
  | interval => "INTERVAL"
  | boolean => "BOOLEAN"
  | point => "POINT"
  | line => "LINE"
  | lseg => "LSEG"
  | box => "BOX"
  | path => "PATH"
  | polygon => "POLYGON"
  | circle => "CIRCLE"
  | cidr => "CIDR"
  | inet => "INET"
  | macaddr => "MACADDR"
  | macaddr8 => "MACADDR8"
  | bit => "BIT"
  | varbit => "VARBIT"
  | tsvector => "TSVECTOR"
  | tsquery => "TSQUERY"
  | json => "JSON"
  | jsonb => "JSONB"
  | uuid => "UUID"
  | xml => "XML"
  | vector => "VECTOR"
  | halfvec => "HALFVEC"
  | sparsevec => "SPARSEVEC"

/-- The type of exactly that name. -/
def ofName? (s : String) : Option ColumnType := all.find? fun t => t.name == s

/-- Reads a type by its name. -/
def ofValue (v : Value) : Except Failure ColumnType :=
  match v with
  | .text s =>
    match ofName? s with
    | some t => .ok t
    | none => .error (.invalidColumnType v)
  | _ => .error (.invalidColumnType v)

/-- Counts up by itself. -/
def isSerial : ColumnType → Bool
  | smallserial | serial | bigserial => true
  | _ => false

/-- Takes a precision and a scale. -/
def isDecimal : ColumnType → Bool
  | decimal | numeric => true
  | _ => false

/-- Takes a dimension. -/
def isVector : ColumnType → Bool
  | vector | halfvec | sparsevec => true
  | _ => false

/-- The serial type that counts in the given integer type. -/
def serialOf? : ColumnType → Option ColumnType
  | smallint => some smallserial
  | int | integer => some serial
  | bigint => some bigserial
  | _ => none

end ColumnType

end SchemaDesk
