import SchemaDesk.Dialect
import SchemaDesk.Sql.Token
/-!
The words that the dialects know, and the marks of more than one character.
-/

namespace SchemaDesk.Sql.Keyword

/-- Words that are known under their own spelling. -/
def plainWords : List String := [
  "ALL", "ALTER", "ALWAYS", "ANALYZE", "AND", "ANTI", "ANY", "APPLY", "ARRAY", "ASC", "ASOF",
  "AUTO_INCREMENT", "BEGIN", "BETWEEN", "CACHE", "CASE", "COLLATE", "COLUMN", "COMMENT", "COMMIT",
  "CONSTRAINT", "COPY", "CREATE", "CROSS", "CUBE", "CURRENT_CATALOG", "CURRENT_DATE",
  "CURRENT_SCHEMA", "CURRENT_TIME", "CURRENT_TIMESTAMP", "CURRENT_USER", "DATABASE", "DEFAULT",
  "DELETE", "DESC", "DESCRIBE", "DISTINCT", "DIV", "DROP", "ELSE", "END", "ESCAPE", "EXCEPT",
  "EXECUTE", "EXISTS", "FALSE", "FETCH", "FILTER", "FIRST", "FOR", "FORMAT", "FROM", "FULL",
  "FUNCTION", "GLOB", "GRANT", "HAVING", "ILIKE", "IN", "INDEX", "INNER", "INSERT", "INTERSECT",
  "INTO", "IS", "ISNULL", "JOIN", "KEEP", "KILL", "LATERAL", "LEFT", "LIKE", "LIMIT", "LOAD",
  "LOCALTIME", "LOCALTIMESTAMP", "LOCK", "MERGE", "NAMESPACE", "NATURAL", "NEXT", "NOT", "NOTNULL",
  "OFFSET", "ON", "OPERATOR", "OR", "ORDINALITY", "OUT", "OUTER", "OVER", "OVERLAPS", "OVERWRITE",
  "PARTITION", "PERCENT", "PIVOT", "PRAGMA", "PROCEDURE", "QUALIFY", "RANGE", "RECURSIVE",
  "REFERENCES", "RENAME", "REPLACE", "RETURNING", "RIGHT", "RLIKE", "ROLLBACK", "ROLLUP", "ROW",
  "ROWS", "SCHEMA", "SELECT", "SEMI", "SEQUENCE", "SESSION", "SESSION_USER", "SET", "SETTINGS",
  "SHOW", "SOME", "STRAIGHT_JOIN", "TABLE", "TABLESAMPLE", "TEMPORARY", "THEN", "TRIGGER", "TRUE",
  "TRUNCATE", "UNCACHE", "UNION", "UNIQUE", "UNNEST", "UNPIVOT", "UPDATE", "USE", "USING", "VALUES",
  "VIEW", "VOLATILE", "WHEN", "WHERE", "WINDOW", "WITH", "XOR"]

/-- Words that are known under another spelling. -/
def otherWords : List (String × String) := [
  ("AS", "ALIAS"), ("AUTOINCREMENT", "AUTO_INCREMENT"), ("PARTITIONED_BY", "PARTITION BY"),
  ("REGEXP", "RLIKE"), ("TEMP", "TEMPORARY"), ("CALL", "COMMAND"), ("EXPLAIN", "COMMAND"),
  ("OPTIMIZE", "COMMAND"), ("PREPARE", "COMMAND"), ("VACUUM", "COMMAND")]

/-- Known phrases; their words may have any blanks between them. -/
def phrases : List String := [
  "CHARACTER SET", "CLUSTER BY", "CONNECT BY", "DISTRIBUTE BY", "FOREIGN KEY", "GROUP BY",
  "GROUPING SETS", "ORDER BY", "PARTITION BY", "PARTITIONED BY", "PRIMARY KEY", "SIMILAR TO",
  "SORT BY", "START WITH"]

/-- Types that are known under their own spelling. -/
def plainTypes : List String := [
  "BIGINT", "BIGNUM", "BINARY", "BIT", "BOOLEAN", "BPCHAR", "CHAR", "DATE", "DATETIME", "DECFLOAT",
  "DECIMAL", "DECIMAL128", "DECIMAL256", "DECIMAL32", "DECIMAL64", "DOUBLE", "ENUM", "FILE",
  "FLOAT", "GEOGRAPHY", "GEOMETRY", "INET", "INT", "INT128", "INT256", "INTERVAL", "JSON", "JSONB",
  "LIST", "LONGBLOB", "LONGTEXT", "MAP", "MEDIUMBLOB", "MEDIUMINT", "MEDIUMTEXT", "NCHAR", "NULL",
  "NULLABLE", "NVARCHAR", "OBJECT", "SMALLINT", "STRUCT", "TEXT", "TIME", "TIMESTAMP",
  "TIMESTAMPLTZ", "TIMESTAMPNTZ", "TIMESTAMPTZ", "TIMETZ", "TINYBLOB", "TINYINT", "TINYTEXT",
  "UINT", "UINT128", "UINT256", "UNKNOWN", "UUID", "VARBINARY", "VARCHAR", "VARIANT", "VECTOR",
  "INT4RANGE", "INT4MULTIRANGE", "INT8RANGE", "INT8MULTIRANGE", "NUMRANGE", "NUMMULTIRANGE",
  "TSRANGE", "TSMULTIRANGE", "TSTZRANGE", "TSTZMULTIRANGE", "DATERANGE", "DATEMULTIRANGE"]

/-- Types that are known under another spelling. -/
def otherTypes : List (String × String) := [
  ("BOOL", "BOOLEAN"), ("BYTE", "TINYINT"), ("INT1", "TINYINT"), ("INT16", "SMALLINT"),
  ("SHORT", "SMALLINT"), ("HUGEINT", "INT128"), ("UHUGEINT", "UINT128"), ("INT2", "SMALLINT"),
  ("INTEGER", "INT"), ("INT4", "INT"), ("INT32", "INT"), ("INT64", "BIGINT"), ("LONG", "BIGINT"),
  ("INT8", "TINYINT"), ("DEC", "DECIMAL"), ("BIGDECIMAL", "BIGDECIMAL"),
  ("BIGNUMERIC", "BIGDECIMAL"), ("NUMBER", "DECIMAL"), ("NUMERIC", "DECIMAL"), ("FIXED", "DECIMAL"),
  ("REAL", "FLOAT"), ("FLOAT4", "FLOAT"), ("FLOAT8", "DOUBLE"), ("CHARACTER", "CHAR"),
  ("VARCHAR2", "VARCHAR"), ("NVARCHAR2", "NVARCHAR"), ("STR", "TEXT"), ("STRING", "TEXT"),
  ("CLOB", "TEXT"), ("LONGVARCHAR", "TEXT"), ("BLOB", "VARBINARY"), ("BYTEA", "VARBINARY"),
  ("TIMESTAMP_LTZ", "TIMESTAMPLTZ"), ("TIMESTAMP_NTZ", "TIMESTAMPNTZ")]

/-- Types that are known under several words, or under one with a mark in it. -/
def typePhrases : List (String × String) := [
  ("DOUBLE PRECISION", "DOUBLE"), ("CHAR VARYING", "VARCHAR"), ("CHARACTER VARYING", "VARCHAR"),
  ("USER-DEFINED", "USER-DEFINED")]

/-- The words that a dialect adds or reads in another way. -/
def dialectWords : Dialect → List (String × TokenKind)
  | .postgresql => [
    ("BIGSERIAL", .type "BIGSERIAL"), ("SERIAL", .type "SERIAL"),
    ("SMALLSERIAL", .type "SMALLSERIAL"), ("HSTORE", .type "HSTORE"), ("INT8", .type "BIGINT"),
    ("MONEY", .type "MONEY"), ("NAME", .type "NAME"), ("POINT", .type "POINT"),
    ("XML", .type "XML"), ("FLOAT", .type "DOUBLE"), ("CSTRING", .type "CSTRING"),
    ("OID", .type "OID"), ("REGCLASS", .type "REGCLASS"), ("REGCOLLATION", .type "REGCOLLATION"),
    ("REGCONFIG", .type "REGCONFIG"), ("REGDICTIONARY", .type "REGDICTIONARY"),
    ("REGNAMESPACE", .type "REGNAMESPACE"), ("REGOPER", .type "REGOPER"),
    ("REGOPERATOR", .type "REGOPERATOR"), ("REGPROC", .type "REGPROC"),
    ("REGPROCEDURE", .type "REGPROCEDURE"), ("REGROLE", .type "REGROLE"),
    ("REGTYPE", .type "REGTYPE"), ("ONLY", .keyword "ONLY"), ("VARIADIC", .keyword "VARIADIC"),
    ("INOUT", .keyword "INOUT"), ("DECLARE", .keyword "COMMAND"), ("DO", .keyword "COMMAND"),
    ("EXEC", .keyword "COMMAND"), ("REFRESH", .keyword "COMMAND"), ("REINDEX", .keyword "COMMAND"),
    ("RESET", .keyword "COMMAND"), ("REVOKE", .keyword "COMMAND"), ("DIV", .word)]
  | .mysql => [
    ("BLOB", .type "BLOB"), ("SERIAL", .type "SERIAL"), ("SIGNED", .type "BIGINT"),
    ("UNSIGNED", .type "UBIGINT"), ("TIMESTAMP", .type "TIMESTAMPTZ"), ("YEAR", .type "YEAR"),
    ("CHARSET", .keyword "CHARACTER SET"), ("DISTINCTROW", .keyword "DISTINCT"),
    ("EXPLAIN", .keyword "DESCRIBE"), ("FORCE", .keyword "FORCE"), ("IGNORE", .keyword "IGNORE"),
    ("KEY", .keyword "KEY"), ("MOD", .mark "%"), ("SEPARATOR", .keyword "SEPARATOR"),
    ("START", .keyword "BEGIN")]
  | .sqlite => [
    ("ATTACH", .keyword "ATTACH"), ("DETACH", .keyword "DETACH"), ("MATCH", .keyword "MATCH")]

/-- The phrases that a dialect adds. -/
def dialectPhrases : Dialect → List (String × TokenKind)
  | .postgresql => []
  | .mysql => [
    ("LOCK TABLES", .keyword "COMMAND"), ("UNLOCK TABLES", .keyword "COMMAND"),
    ("MEMBER OF", .keyword "MEMBER OF"), ("SOUNDS LIKE", .keyword "SOUNDS LIKE"),
    ("SIGNED INTEGER", .type "BIGINT"), ("UNSIGNED INTEGER", .type "UBIGINT")]
  | .sqlite => [("INDEXED BY", .keyword "INDEXED BY")]

/-- The character sets that MySQL admits in front of a text, behind an underscore. -/
def characterSets : List String := [
  "ARMSCII8", "ASCII", "BIG5", "BINARY", "CP1250", "CP1251", "CP1256", "CP1257", "CP850", "CP852",
  "CP866", "CP932", "DEC8", "EUCJPMS", "EUCKR", "GB18030", "GB2312", "GBK", "GEOSTD8", "GREEK",
  "HEBREW", "HP8", "KEYBCS2", "KOI8R", "KOI8U", "LATIN1", "LATIN2", "LATIN5", "LATIN7", "MACCE",
  "MACROMAN", "SJIS", "SWE7", "TIS620", "UCS2", "UJIS", "UTF8", "UTF16", "UTF16LE", "UTF32",
  "UTF8MB3", "UTF8MB4"]

/-- The word is a character set behind an underscore. -/
def isIntroducer (d : Dialect) (w : String) : Bool :=
  d == .mysql && characterSets.any fun s => w == "_" ++ s

/-- What a single word in upper case is in a dialect. -/
def ofWord (d : Dialect) (w : String) : TokenKind :=
  match (dialectWords d).lookup w with
  | some k => k
  | none =>
    if isIntroducer d w then .keyword "INTRODUCER"
    else if plainWords.contains w then .keyword w
    else if plainTypes.contains w then .type w
    else match otherWords.lookup w with
      | some name => .keyword name
      | none => match otherTypes.lookup w with
        | some name => .type name
        | none => .word

/-- All phrases of a dialect with what they are. -/
def ofPhrases (d : Dialect) : List (String × TokenKind) :=
  dialectPhrases d ++
    phrases.map (fun p => (p, .keyword (if p == "PARTITIONED BY" then "PARTITION BY" else p))) ++
    typePhrases.map fun p => (p.1, .type p.2)

/-- Marks of several characters that all dialects know, longer ones first. -/
def commonMarks : List String := [
  "\x7b%+", "\x7b%-", "+%\x7d", "-%\x7d", "\x7b\x7b+", "\x7b\x7b-", "+\x7d\x7d",
  "-\x7d\x7d", "\x7b%", "%\x7d", "->>", "#>>", "<=>", "<->", "~~~", "~~*", "==", "::", "||", "|>", ">=", "<=", "<>", "!=", ":=",
  "->", "=>", "#>", "&&", "??", "~~", "~*"]

def dialectMarks : Dialect → List String
  | .postgresql => ["||/", "-|-", "@@", "@>", "<@", "?&", "?|", "#-", "|/", "&<", "&>"]
  | .mysql => ["@@"]
  | .sqlite => []

/-- Characters that end a word; most of them are marks on their own. -/
def breakers : List Char := "()[]\x7b\x7d&^:,-.=><%!/\\|+;*~?@#'`\"".toList

end SchemaDesk.Sql.Keyword
