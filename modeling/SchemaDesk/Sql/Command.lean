import SchemaDesk.Sql.Token
import SchemaDesk.Text.Caseless
import SchemaDesk.Text.Find
/-!
Statements that were kept as commands although they define or alter tables. They are reported at
their first word.
-/

namespace SchemaDesk.Sql.Command

/-- `TABLE` as a word of its own. -/
def dropTable? (cs : List Char) : Option (List Char) :=
  (Text.dropCaseless? "table".toList cs).filter Text.endsWord

/-- The rest behind one word and the blanks behind that. -/
def dropWord? (cs : List Char) : Option (List Char) :=
  let rest := cs.dropWhile Text.isWordChar
  if rest.length == cs.length then none else Text.dropSomeBlanks? rest

/-- `TABLE` stands behind so many words at most. -/
def tableWithin : Nat → List Char → Bool
  | 0, cs => (dropTable? cs).isSome
  | k + 1, cs =>
    (dropTable? cs).isSome ||
      match dropWord? cs with
      | some rest => tableWithin k rest
      | none => false

/-- The words `FOREIGN KEY` stand somewhere behind a character. -/
def mentionsForeignKey : List Char → Bool
  | [] => false
  | c :: cs =>
    (!Text.isWordChar c &&
      match Text.dropWords? ["foreign", "key"] cs with
      | some rest => Text.endsWord rest
      | none => false) || mentionsForeignKey cs

/-- The command should have been a statement on a table. -/
def isBroken (keyword : String) (rest : List Char) : Bool :=
  let body := Text.dropBlanks rest
  if keyword == "CREATE" then tableWithin 3 body
  else if keyword == "ALTER" then
    match dropTable? body with
    | some after => mentionsForeignKey after
    | none => false
  else false

/-- The place of an offset; only line feeds end a line. -/
def location (script : List Char) (offset : Nat) : Location :=
  let before := script.take offset
  let line := before.reverse.takeWhile (· != '\n')
  ⟨(before.filter (· == '\n')).length + 1, line.length + 1⟩

/-- The last keyword before the first place where the rest of the command stands. -/
def locate (script : List Char) (keyword : String) (rest : List Char) : Location :=
  let body := Text.stripChars rest
  if body.isEmpty then ⟨1, 1⟩
  else
    match Text.find? body script with
    | none => ⟨1, 1⟩
    | some offset =>
      let found := Text.findLast? keyword.toList ((Text.upperChars script).take offset)
      location script (found.getD offset)

/-- The report on a broken command. -/
def fault? (script : List Char) (keyword rest : String) : Option (String × Location) :=
  let keyword := Text.upper (Text.strip keyword)
  if isBroken keyword rest.toList then
    let place := locate script keyword rest.toList
    some ("Invalid or unsupported " ++ keyword ++ " TABLE syntax. Line " ++ Text.natText place.line ++
      ", Col: " ++ Text.natText place.column ++ ".", place)
  else none

end SchemaDesk.Sql.Command
