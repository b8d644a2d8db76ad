import SchemaDesk.Text.Blank
import SchemaDesk.Text.Find
/-!
Comments in canonical texts. All comments are written between `/*` and `*/`, next to what they are
about.
-/

namespace SchemaDesk.Sql.Comment

/-- The text with a blank at either end. -/
def padded (s : String) : String :=
  let isSolid (c : Option Char) : Bool := (c.map (!Text.isBlank ·)).getD false
  let front := if isSolid s.toList.head? then " " ++ s else s
  if isSolid s.toList.getLast? then front ++ " " else front

/-- A comment between its marks. Marks inside of it are broken up, so that it ends where it should. -/
def enclosed (s : String) : String :=
  "/*" ++ Text.replace (Text.replace (padded s) "*/" "* /") "/*" "/ *" ++ "*/"

/-- Comments in a row; empty ones are left out. -/
def row (comments : List String) : String :=
  " ".intercalate ((comments.filter (· != "")).map enclosed)

/-- A text with comments behind it. -/
def behind (s : String) (comments : List String) : String :=
  match row comments with
  | "" => s
  | r => s ++ " " ++ r

/-- A text with comments in front of it. A text that starts with a blank keeps its blank. -/
def before (comments : List String) (s : String) : String :=
  match row comments with
  | "" => s
  | r =>
    if (s.toList.head?.map Text.isBlank).getD true then " " ++ r ++ s else r ++ " " ++ s

end SchemaDesk.Sql.Comment
