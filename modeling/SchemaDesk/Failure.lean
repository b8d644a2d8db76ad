import SchemaDesk.Value.Display
/-!
The causes for which an operation gives no result, and their wording.
-/

namespace SchemaDesk

inductive Failure
  /-- Digits that form no numeral, such as superscripts. -/
  | invalidNumeral (text : String)
  | indexOutOfRange
  /-- An instant outside of the years 1 to 9999. -/
  | dateOutOfRange
  | unsupportedDialect (given : String)
  | invalidColumnType (given : Value)
  | invalidRelationType (given : Value)
  /-- An argument that no operation of this kind takes, or that has no usable form. -/
  | invalidArgument
  /-- A value without the operations that its place asks for. -/
  | unusableValue

namespace Failure

def message : Failure → String
  | invalidNumeral text => "invalid literal for int() with base 10: " ++ Text.quoted text
  | indexOutOfRange => "list index out of range"
  | dateOutOfRange => "date value out of range"
  | unsupportedDialect given =>
    "지원하지 않는 dialect: " ++ given ++ ". 지원하는 dialect: PostgreSQL, MySQL, SQLite"
  | invalidColumnType given => given.inner ++ " is not a valid ColumnType"
  | invalidRelationType given => given.inner ++ " is not a valid RelationType"
  | invalidArgument => "invalid argument"
  | unusableValue => "unusable value"

end Failure

end SchemaDesk
