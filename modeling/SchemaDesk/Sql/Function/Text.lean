import SchemaDesk.Sql.Function.Signature
/-!
Functions of texts that are written in different ways: parts of a text, places in it, patterns, and
texts put together.
-/

namespace SchemaDesk.Sql.Function

/-- A part of a text. PostgreSQL separates the arguments with words. -/
def substring (d : Dialect) (es : List Expr) : Expr :=
  match d, es with
  | .postgresql, e :: start :: rest =>
    let size := match rest with
      | size :: _ => [.text " FOR ", .value size]
      | [] => []
    ofParts "substring" (some e)
      (.text "SUBSTRING(" :: .value e :: .text " FROM " :: .value start :: size ++ [.text ")"])
  | _, es => named "substring" "SUBSTRING" es[0]? es

/-- A function of a place and its text, with a choice if the search starts further on. -/
def shifted (d : Dialect) (place start : Expr) : Expr :=
  let zero := Expr.number "0"
  choice d (.binary Operator.equal [] place zero) zero
    (some (.binary Operator.subtract [] (.binary Operator.add [] place start) (.number "1")))

/-- The place of a text inside of another one, perhaps behind a start. -/
def placeOf (d : Dialect) (whole part : Expr) (start : Option Expr) : Expr :=
  let of (e : Expr) : Expr :=
    match d with
    | .postgresql => ofParts "strposition" (some whole)
        [.text "POSITION(", .value part, .text " IN ", .value e, .text ")"]
    | .mysql => named "strposition" "LOCATE" (some whole) (part :: e :: start.toList)
    | .sqlite => named "strposition" "INSTR" (some whole) [e, part]
  match d, start with
  | .mysql, _ => of whole
  | _, none => of whole
  | _, some s =>
    ofParts "strposition" (some whole) [.value (shifted d (of (substring d [whole, s])) s)]

/-- A search whose first argument is the whole text. -/
def search (d : Dialect) : Builder
  | es@(whole :: part :: rest) => atMost 4 es (placeOf d whole part rest.head?)
  | es => .ok (named "strposition" "STR_POSITION" es[0]? es)

/-- A search whose first argument is the part. -/
def searchPart (d : Dialect) : Builder
  | es@(part :: whole :: rest) => atMost 4 es (placeOf d whole part rest.head?)
  | es => .ok (named "strposition" "STR_POSITION" es[1]? es)

/-- What may be cut off a text at one side or at both. -/
def trim (d : Dialect) (side : Option String) (e : Expr) (chars : Option Expr) : Expr :=
  let name := match side with
    | some "LEADING" => "LTRIM"
    | some "TRAILING" => "RTRIM"
    | _ => "TRIM"
  match d, chars with
  | .sqlite, _ => named "trim" name (some e) (e :: chars.toList)
  | _, none => named "trim" name (some e) [e]
  | _, some c =>
    let front := match side with
      | some s => s ++ " "
      | none => ""
    ofParts "trim" (some e)
      [.text ("TRIM(" ++ front), .value c, .text " FROM ", .value e, .text ")"]

def trimAt (d : Dialect) (side : String) : Builder
  | es@(e :: rest) => atMost 4 es (trim d (some side) e rest.head?)
  | [] => .ok (named "trim" "TRIM" none [])

/-- A text filled up at one side. MySQL needs to be told what with. -/
def pad (d : Dialect) (name : String) : Builder := fun es =>
  let fill := if d == .mysql && es.length == 2 then [.text " "] else []
  atMost 4 es (named "pad" name es[0]? (es.take 3 ++ fill))

/-- Texts put together. SQLite has an operator for it. -/
def concatenated (d : Dialect) (es : List Expr) : Expr :=
  match d, es with
  | .sqlite, e :: rest =>
    .known "concat" none [.value (rest.foldl (.binary Operator.concatenate []) e)]
  | _, es => named "concat" "CONCAT" none es

/-- The count of characters, or of bytes for `LENGTH` in MySQL. -/
def lengthOf (d : Dialect) (name : String) : Builder := fun es =>
  atMost 3 es (match d with
    | .mysql =>
      named "length" (if name == "LENGTH" then "LENGTH" else "CHAR_LENGTH") es[0]? (es.take 1)
    | _ => named "length" "LENGTH" es[0]? es)

/-- The code of the first character. -/
def codeOf (d : Dialect) : Builder := fun es =>
  atMost 1 es (match d, es with
    | .mysql, [e] =>
      ofParts "unicode" (some e) [.text "ORD(CONVERT(", .value e, .text " USING utf32))"]
    | .postgresql, es => named "unicode" "ASCII" es[0]? es
    | _, es => named "unicode" "UNICODE" es[0]? es)

/-- Characters by their codes, in a character set if one is given. -/
def characters (d : Dialect) (es : List Expr) (set : Option Expr) : Expr :=
  let back : List Part := match set with
    | some s => [.text " USING ", .value s]
    | none => []
  .known "chr" none (.text (if d == .postgresql then "CHR(" else "CHAR(") :: Part.list es ++
    back ++ [.text ")"])

/-- The pattern is the first argument of these functions. -/
def pattern (operator : Operator) : Builder
  | p :: e :: rest =>
    let m := Expr.binary operator [] e p
    .ok (match rest with
      | s :: _ => .binary Operator.escape [] m s
      | [] => m)
  | es => .ok (named operator.kind "LIKE" es[0]? es)

/-- A pattern that is a regular expression, with options where the dialect has a function. -/
def regular (operator : Operator) (name : String) : Builder
  | [e, p] => .ok (.binary operator [] e p)
  | es@(e :: p :: _) =>
    atMost 3 es (match operator.form with
      | .call _ => named operator.kind name (some e) es
      | _ => .binary operator [] e p)
  | es => .ok (named operator.kind name es[0]? es)

/-- How many changes lead from one text to another. -/
def changes (d : Dialect) (name : String) : Builder := fun es =>
  let written := match d with
    | .sqlite => "EDITDIST3"
    | .mysql => "LEVENSHTEIN"
    | .postgresql => if es.length == 6 then "LEVENSHTEIN_LESS_EQUAL" else name
  atMost 6 es (named "levenshtein" written es[0]? es)

/-- A text with another one in the place of some characters. -/
def insertion (d : Dialect) : Builder := fun es =>
  atMost 4 es (named "stuff" (if d == .mysql then "INSERT" else "STUFF") es[0]? es)

/-- A text as a number. Only PostgreSQL has a function for it, which needs a
format; otherwise it is a cast. -/
def numberOf (d : Dialect) : Builder := fun es =>
  atMost 5 es (match es with
    | e :: format :: _ =>
      if d == .postgresql then named "tonumber" "TO_NUMBER" (some e) [e, format]
      else ofParts "tonumber" (some e) [.value (castTo "DOUBLE" e)]
    | es => ofParts "tonumber" es[0]? (es.map fun e => .value (castTo "DOUBLE" e)))

def textFunction? (d : Dialect) (name : String) : Option Builder :=
  match name with
  | "SUBSTR" => some fun es => atMost 3 es (substring d es)
  | "STRPOS" => some (search d)
  | "INSTR" => some (search d)
  | "STR_POSITION" => some (search d)
  | "LOCATE" => some (searchPart d)
  | "CHARINDEX" => some (searchPart d)
  | "LTRIM" => some (trimAt d "LEADING")
  | "RTRIM" => some (trimAt d "TRAILING")
  | "LPAD" => some (pad d "LPAD")
  | "LEFTPAD" => some (pad d "LPAD")
  | "RPAD" => some (pad d "RPAD")
  | "RIGHTPAD" => some (pad d "RPAD")
  | "CONCAT" => some fun es => .ok (concatenated d es)
  | "LENGTH" => some (lengthOf d name)
  | "LEN" => some (lengthOf d name)
  | "CHAR_LENGTH" => some (lengthOf d name)
  | "CHARACTER_LENGTH" => some (lengthOf d name)
  | "UNICODE" => some (codeOf d)
  | "ASCII" => if d == .postgresql then some (codeOf d) else none
  | "CHAR" => some fun es => .ok (characters d es none)
  | "CHR" => some fun es => .ok (characters d es none)
  | "LIKE" => some (pattern Operator.like)
  | "GLOB" => some (pattern Operator.glob)
  | "REGEXP_LIKE" => some (regular (Operator.regular d) "REGEXP_LIKE")
  | "REGEXP_ILIKE" => some (regular (Operator.caselessRegular d) "REGEXP_ILIKE")
  | "LEVENSHTEIN" => some (changes d name)
  | "LEVENSHTEIN_LESS_EQUAL" => if d == .postgresql then some (changes d name) else none
  | "EDITDIST3" => if d == .sqlite then some (changes d name) else none
  | "STUFF" => some (insertion d)
  | "INSERT" => some (insertion d)
  | "TO_NUMBER" => some (numberOf d)
  | "FORMAT" =>
    if d == .mysql then some fun es => atMost 3 es (named "numbertostr" "FORMAT" es[0]? es) else none
  | "COLLATE" => some fun es => match es with
    | [e, c] => .ok (.binary Operator.collate [] e c)
    | es => atMost 2 es (named "collate" "COLLATE" es[0]? es)
  | _ => none

end SchemaDesk.Sql.Function
