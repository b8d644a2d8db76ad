import SchemaDesk.Sql.Render
/-!
The canonical text of the rules of columns and tables.
-/

namespace SchemaDesk.Sql

/-- Columns between parentheses, or nothing if there are none. -/
def columnList (texts : List String) : String :=
  if texts.isEmpty then "" else " " ++ listInParens texts

def wordsBehind (ws : List String) : String := String.join (ws.map (" " ++ ·))

namespace TableName

def render (d : Dialect) (t : TableName) : String :=
  Comment.behind (".".intercalate ((t.qualifiers ++ [t.name]).map (·.render d))) t.comments

end TableName

namespace Reference

/-- The table with the columns that are listed. -/
def target (d : Dialect) (r : Reference) : String :=
  r.table.render d ++ Comment.behind (columnList (Expr.renders d r.columns)) r.columnComments

def render (d : Dialect) (r : Reference) : String :=
  Comment.behind ("REFERENCES " ++ r.target d ++ wordsBehind r.options) r.comments

end Reference

namespace ForeignKeyClause

/-- The last of the actions for an event. -/
def lastAction (actions : List String) (event : String) : List String :=
  (actions.reverse.find? fun a => Text.startsWith ("ON " ++ event).toList a.toList).toList

def render (d : Dialect) (k : ForeignKeyClause) : String :=
  let reference := match k.reference with
    | some r => " " ++ r.render d
    | none => ""
  let actions := lastAction k.actions "DELETE" ++ lastAction k.actions "UPDATE"
  Comment.behind
    ("FOREIGN KEY" ++ columnList (k.columns.map (·.render d)) ++ reference ++
      wordsBehind (actions ++ k.options)) k.comments

end ForeignKeyClause

namespace Rule

/-- The kind of a rule and its text, for the rules that are described by them. -/
def described (d : Dialect) : Rule → String × String
  | .notNull => ("notnullcolumnconstraint", "NOT NULL")
  | .null => ("notnullcolumnconstraint", "NULL")
  | .primaryKey => ("primarykeycolumnconstraint", "PRIMARY KEY")
  | .keyOf columns => ("primarykey", "PRIMARY KEY" ++ columnList (Expr.renders d columns))
  | .unique _ columns =>
    ("uniquecolumnconstraint", "UNIQUE" ++ columnList (Expr.renders d (columns.getD [])))
  | .index name columns =>
    ("indexcolumnconstraint",
      "INDEX" ++ (match name with
        | some i => " " ++ i.render d
        | none => "") ++ columnList (Expr.renders d columns))
  | .autoIncrement => ("autoincrementcolumnconstraint", "AUTO_INCREMENT")
  | .default e => ("defaultcolumnconstraint", "DEFAULT " ++ e.render d)
  | .check e => ("checkcolumnconstraint", "CHECK (" ++ e.render d ++ ")")
  | .references r => ("reference", r.render d)
  | .foreignKey k => ("foreignkey", k.render d)
  | .other kind _ written => (kind, Part.renders d written)

end Rule

namespace ColumnConstraint

/-- The kind and the text of a rule with its name in front, or of a name alone. -/
def described (d : Dialect) (c : ColumnConstraint) : Option (String × String) :=
  match c.name, c.rule with
  | none, some r =>
    let (kind, text) := r.described d
    some (kind, Comment.behind text c.comments)
  | some i, some r =>
    let (kind, text) := r.described d
    some (kind, Comment.behind ("CONSTRAINT " ++ i.render d ++ " " ++ text) c.comments)
  | some i, none => some ("identifier", i.render d)
  | none, none => none

end ColumnConstraint

end SchemaDesk.Sql
