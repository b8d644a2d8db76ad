import SchemaDesk.ColumnType
import SchemaDesk.Text.Find
/-!
The spellings under which dialects know a column type. A spelling is compared in upper case, without
parameters, array brackets and superfluous blanks; one that no dialect knows means `VARCHAR`.
-/

namespace SchemaDesk.ColumnType

/-- How many characters there are up to and with the next closing parenthesis, if it is in the same
line. -/
def toClosing? : List Char → Option Nat
  | [] => none
  | c :: cs => if c == ')' then some 1 else if c == '\n' then none else (toClosing? cs).map (· + 1)

/-- Leaves out each parenthesised part that ends in the line where it starts. The counter tells how
many characters are still to be left out. -/
def dropParameters : Nat → List Char → List Char
  | _, [] => []
  | n + 1, _ :: cs => dropParameters n cs
  | 0, c :: cs =>
    match if c == '(' then toClosing? cs else none with
    | some n => dropParameters n cs
    | none => c :: dropParameters 0 cs

def normalChars (cs : List Char) : List Char :=
  Text.collapseChars (Text.upperChars
    (Text.replaceFrom ['[', ']'] [] 0 (dropParameters 0 cs)))

/-- The form in which spellings are compared. -/
def normalSpelling (s : String) : String := String.ofList (normalChars s.toList)

def spellings : List (String × ColumnType) := [
  ("SMALLINT", smallint), ("INT2", smallint),
  ("INT", int), ("INT4", int), ("TINYINT", int), ("MEDIUMINT", int),
  ("INTEGER", integer),
  ("BIGINT", bigint), ("INT8", bigint),
  ("DECIMAL", decimal), ("NUMERIC", numeric),
  ("REAL", real), ("FLOAT4", real),
  ("DOUBLE", doublePrecision), ("DOUBLE PRECISION", doublePrecision), ("FLOAT8", doublePrecision),
  ("FLOAT", float), ("MONEY", money),
  ("SMALLSERIAL", smallserial), ("SERIAL2", smallserial),
  ("SERIAL", serial), ("SERIAL4", serial),
  ("BIGSERIAL", bigserial), ("SERIAL8", bigserial),
  ("CHAR", char), ("CHARACTER", char), ("BPCHAR", char),
  ("VARCHAR", varchar), ("CHARACTER VARYING", varchar),
  ("TEXT", text), ("TINYTEXT", text), ("MEDIUMTEXT", text), ("LONGTEXT", text),
  ("BYTEA", bytea), ("BLOB", bytea), ("TINYBLOB", bytea), ("MEDIUMBLOB", bytea),
  ("LONGBLOB", bytea), ("VARBINARY", bytea), ("BINARY", bytea),
  ("DATE", date),
  ("TIME", time), ("TIME WITHOUT TIME ZONE", time),
  ("TIMETZ", timetz), ("TIME WITH TIME ZONE", timetz),
  ("TIMESTAMP", timestamp), ("TIMESTAMP WITHOUT TIME ZONE", timestamp), ("DATETIME", timestamp),
  ("TIMESTAMPTZ", timestamptz), ("TIMESTAMP WITH TIME ZONE", timestamptz),
  ("INTERVAL", interval),
  ("BOOLEAN", boolean), ("BOOL", boolean),
  ("POINT", point), ("LINE", line), ("LSEG", lseg), ("BOX", box), ("PATH", path),
  ("POLYGON", polygon), ("CIRCLE", circle),
  ("CIDR", cidr), ("INET", inet), ("MACADDR", macaddr), ("MACADDR8", macaddr8),
  ("BIT", bit), ("VARBIT", varbit), ("BIT VARYING", varbit),
  ("TSVECTOR", tsvector), ("TSQUERY", tsquery),
  ("JSON", json), ("JSONB", jsonb),
  ("UUID", uuid), ("XML", xml),
  ("VECTOR", vector), ("HALFVEC", halfvec), ("SPARSEVEC", sparsevec)]

/-- The integer types by name, each with the type that counts up in it. -/
def countingSpellings : List (String × ColumnType) := [
  ("SMALLINT", smallserial), ("INT", serial), ("INTEGER", serial), ("BIGINT", bigserial)]

def withoutSuffix (p s : String) : String :=
  match Text.dropEnd? p.toList s.toList with
  | some cs => String.ofList cs
  | none => s

/-- The type of a spelling in normal form. An integer that counts up is the serial type. -/
def ofNormalSpelling (s : String) : ColumnType :=
  let s := withoutSuffix " UNSIGNED" s
  match Text.dropEnd? " AUTO_INCREMENT".toList s.toList with
  | some cs =>
    let base := String.ofList cs
    ((countingSpellings.lookup base).or (spellings.lookup base)).getD varchar
  | none => (spellings.lookup s).getD varchar

def ofSpelling (s : String) : ColumnType := ofNormalSpelling (normalSpelling s)

end SchemaDesk.ColumnType
