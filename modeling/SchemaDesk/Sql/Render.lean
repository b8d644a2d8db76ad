import SchemaDesk.Sql.Comment
import SchemaDesk.Sql.Kind
import SchemaDesk.Sql.TypeName
import SchemaDesk.Text.Case
/-!
The canonical text of expressions and types in a dialect: one space around operators, one behind
commas, the main names of functions and types, and comments behind what they belong to.
-/

namespace SchemaDesk.Sql

/-- A text with each `mark` doubled, between two of them. -/
def enclose (mark : Char) (s : String) : String :=
  String.ofList (mark :: s.toList.flatMap (fun c => if c == mark then [c, c] else [c]) ++ [mark])

namespace Ident

def render (d : Dialect) (i : Ident) : String :=
  Comment.behind (if i.quoted then enclose (if d == .mysql then '`' else '"') i.text else i.text)
    i.comments

end Ident

/-- Control characters and backslashes of a MySQL text have escapes. -/
def backslashEscape (c : Char) : List Char :=
  if c == '\\' then ['\\', '\\']
  else if c == '\n' then ['\\', 'n']
  else if c == '\r' then ['\\', 'r']
  else if c == '\t' then ['\\', 't']
  else if c.toNat == 7 then ['\\', 'a']
  else if c.toNat == 8 then ['\\', 'b']
  else if c.toNat == 11 then ['\\', 'v']
  else if c.toNat == 12 then ['\\', 'f']
  else [c]

def textLiteral (d : Dialect) (s : String) : String :=
  enclose '\'' (if d == .mysql then String.ofList (s.toList.flatMap backslashEscape) else s)

/-- A minus sign or a word in front of an operand; two minus signs would start a comment. -/
def signed (symbol s : String) : String :=
  symbol ++ (if symbol == "-" && Text.startsWith ['-'] s.toList then " " else "") ++ s

namespace OperatorForm

/-- An operation on the texts of its operands. Comments stand behind a symbol that has spaces around
it; all others have no place for them. -/
def text (comments : List String) (l r : String) : OperatorForm → String
  | .between symbol => l ++ " " ++ Comment.behind symbol comments ++ " " ++ r
  | .notBetween symbol => "NOT " ++ l ++ " " ++ Comment.behind symbol comments ++ " " ++ r
  | .joined symbol => l ++ symbol ++ r
  | .call function => function ++ "(" ++ l ++ ", " ++ r ++ ")"

end OperatorForm

/-- Values of which equal ones count once. PostgreSQL compares several ones as a row, and leaves out
rows with a null. -/
def distinctText (d : Dialect) (items : List String) : String :=
  "DISTINCT" ++
    (if items.isEmpty then ""
    else if d == .postgresql && 1 < items.length then
      " CASE" ++ String.join (items.map fun s => " WHEN " ++ s ++ " IS NULL THEN NULL") ++
        " ELSE (" ++ commaList items ++ ") END"
    else " " ++ commaList items)

/-- An amount of time by the texts of its parts. -/
def intervalText (amount unit : String) : String :=
  "INTERVAL" ++ (if amount == "" then "" else " " ++ amount) ++
    (if unit == "" then "" else " " ++ unit)

namespace Expr

/-- The amount of an interval needs no parentheses. -/
def isPlainAmount (e : Expr) : Bool :=
  match e.bare with
  | .column _ _ | .number _ | .text _ | .paren _ => true
  | .unary kind _ _ => kind == "neg"
  | _ => false

/-- The comments of a query stand in front of it. -/
def leads : Expr → Bool
  | .noted _ e => e.leads
  | .clause _ _ | .sorted _ _ => true
  | _ => false

/-- A function that is called as a member keeps its name as it is written. -/
def keepsName : Expr → Option Ident
  | .noted _ e => e.keepsName
  | .call f _ => some f
  | _ => none

end Expr

mutual

def Expr.render (d : Dialect) : Expr → String
  | .noted comments e =>
    let s := e.render d
    if e.leads then Comment.before comments s else Comment.behind s comments
  | .name i => i.render d
  | .column qualifiers last => ".".intercalate (Expr.renders d qualifiers ++ [last.render d])
  | .star => "*"
  | .number t => t
  | .text s => textLiteral d s
  | .raw s => textLiteral d s
  | .national s => "N" ++ textLiteral d s
  | .bits s => "b'" ++ s ++ "'"
  | .hex s => "x'" ++ s ++ "'"
  | .escaped s => "e'" ++ s ++ "'"
  | .null => "NULL"
  | .bool b => if b then "TRUE" else "FALSE"
  | .word t => t
  | .unary _ symbol e => signed symbol (e.render d)
  | .binary o comments l r =>
    o.form.text comments (l.render d)
      (if o.kind == "dot" then Expr.renderMember d r else r.render d)
  | .paren e => "(" ++ e.render d ++ ")"
  | .tuple es => "(" ++ commaList (Expr.renders d es) ++ ")"
  | .array es =>
    let items := commaList (Expr.renders d es)
    if d == .postgresql && !(es.head?.map Expr.isQuery).getD false then "ARRAY[" ++ items ++ "]"
    else "ARRAY(" ++ items ++ ")"
  | .distinct es => distinctText d (Expr.renders d es)
  | .sorted e keys => e.render d ++ " ORDER BY " ++ commaList (Expr.renders d keys)
  | .call f es =>
    (if f.quoted then f.render d else Text.upper f.text) ++
      "(" ++ commaList (Expr.renders d es) ++ ")"
  | .known _ _ parts => Part.renders d parts
  | .cast _ e t => t.renderCast d (e.render d)
  | .typed t => t.render d
  | .interval amount unit =>
    match amount with
    | none => intervalText "" unit
    | some e =>
      if d == .postgresql then
        let s := e.ownName
        if s == "" then intervalText "" unit
        else "INTERVAL '" ++ s ++ (if unit == "" then "" else " " ++ unit) ++ "'"
      else
        let s := e.render d
        intervalText (if e.isPlainAmount then s else "(" ++ s ++ ")") unit
  | .aliased e i => e.render d ++ " AS " ++ i.render d
  | .phrase _ _ parts => Part.renders d parts
  | .clause _ parts => Part.renders d parts
  | .subquery e => "(" ++ e.render d ++ ")"

/-- What stands behind a dot. -/
def Expr.renderMember (d : Dialect) : Expr → String
  | .noted comments e => Comment.behind (Expr.renderMember d e) comments
  | .call f es => f.render d ++ "(" ++ commaList (Expr.renders d es) ++ ")"
  | .name i => i.render d
  | .known _ _ parts => Part.renders d parts
  | e => e.render d

def Expr.renders (d : Dialect) : List Expr → List String
  | [] => []
  | e :: es => e.render d :: Expr.renders d es

def Part.renders (d : Dialect) : List Part → String
  | [] => ""
  | .text s :: ps => s ++ Part.renders d ps
  | .value e :: ps => e.render d ++ Part.renders d ps

def TypeExpr.render (d : Dialect) : TypeExpr → String
  | .named name parameters => TypeName.text d name (Expr.renders d parameters)
  | .userDefined path parameters =>
    ".".intercalate (path.map (·.render d)) ++ listInParens (Expr.renders d parameters)
  | .array element bounds =>
    if d == .postgresql then element.render d ++ "[" ++ commaList (Expr.renders d bounds) ++ "]"
    else "ARRAY<" ++ element.render d ++ ">"
  | .composed name parts => name ++ "<" ++ commaList (Expr.renders d parts) ++ ">"
  | .characterSet name => "CHAR CHARACTER SET " ++ name.render d
  | .noted comments t => Comment.behind (t.render d) comments

/-- A cast of the text of a value. -/
def TypeExpr.renderCast (d : Dialect) (value : String) : TypeExpr → String
  | .named name parameters => TypeName.cast d value name (Expr.renders d parameters)
  | t => "CAST(" ++ value ++ " AS " ++ t.render d ++ ")"

end

end SchemaDesk.Sql
