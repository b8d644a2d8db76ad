import SchemaDesk.Text.Find
import SchemaDesk.Failure
/-!
Names, numbers and defaults out of the several shapes in which a description may hold them.
-/

namespace SchemaDesk.Value

mutual

/-- The text of a name: a text or a number as it stands, or what the first of the fields `value`,
`expr`, `column`, `table` and `name` holds. -/
def nameText? : Value → Option String
  | text s => if s == "" then none else some s
  | int n => some (Text.intText n)
  | real x => some x.text
  | record fields =>
    match nameField? "value" fields with
    | some t => t
    | none =>
      match nameField? "expr" fields with
      | some t => t
      | none =>
        match nameField? "column" fields with
        | some t => t
        | none =>
          match nameField? "table" fields with
          | some t => t
          | none => (nameField? "name" fields).getD none
  | null => none
  | bool _ => none
  | list _ => none

/-- The name in a field; `none` when the field is absent. -/
def nameField? (key : String) : List (String × Value) → Option (Option String)
  | [] => none
  | (name, v) :: fields =>
    if name == key then (if v.isNull then none else some (nameText? v)) else nameField? key fields

end

mutual

/-- What a record holds under `value`, through any number of records. -/
def unwrapped : Value → Value
  | record fields => unwrappedField fields
  | v => v

def unwrappedField : List (String × Value) → Value
  | [] => null
  | (name, v) :: fields => if name == "value" then unwrapped v else unwrappedField fields

end

/-- An integer, or a text of digits with blank margins. Digits that form no numeral fail, all other
values have no number. -/
def toInt? (v : Value) : Except Failure (Option Int) :=
  match v.unwrapped with
  | int n => .ok (some n)
  | real x => .ok x.toInt?
  | text s =>
    let cs := Text.stripChars s.toList
    if Text.allDigits cs then
      match Text.readNat? cs with
      | some n => .ok (some n)
      | none => .error (.invalidNumeral (String.ofList cs))
    else .ok none
  | _ => .ok none

/-- The parts of a qualified function name, each a text or a record that holds one. -/
def nameParts (parts : List Value) : List String :=
  parts.filterMap fun part =>
    let v := if part.isRecord then part.get "value" else part
    if v.truthy then some v.display else none

/-- The name of a function. -/
def functionName (v : Value) : String :=
  match v with
  | text s => s
  | record _ =>
    match v.get "name" with
    | list parts => ".".intercalate (nameParts parts)
    | text s => s
    | _ => ""
  | _ => ""

def hasTag (v : Value) (tag : String) : Bool :=
  match v.get "type" with
  | text s => s == tag
  | _ => false

mutual

/-- The value below all `default` tags. -/
def untagged : Value → Value
  | record fields =>
    if hasTag (record fields) "default" && (record fields).has "value" then untaggedField fields
    else record fields
  | v => v

def untaggedField : List (String × Value) → Value
  | [] => null
  | (name, v) :: fields => if name == "value" then untagged v else untaggedField fields

end

/-- A call without arguments; the current timestamp is no call. -/
def callText (v : Value) : String :=
  let name := (v.get "name").functionName
  if Text.upper name == "CURRENT_TIMESTAMP" && !((v.get "args").get "value").truthy then
    "CURRENT_TIMESTAMP"
  else name ++ "()"

/-- The text of a value that no tag explains. -/
def plainText? (v : Value) : Option String :=
  match v.get "value" with
  | text s => some s
  | int n => some (Text.intText n)
  | real x => some x.text
  | _ => v.nameText?

def taggedText? (v : Value) : Option String :=
  if v.hasTag "function" then some v.callText
  else if (v.hasTag "single_quote_string" || v.hasTag "string") && v.has "value" then
    some ("'" ++ (v.get "value").display ++ "'")
  else if v.hasTag "number" && v.has "value" then some (v.get "value").display
  else if v.hasTag "null" then some "NULL"
  else if v.hasTag "bool" then some (if (v.get "value").truthy then "TRUE" else "FALSE")
  else v.plainText?

/-- A default as it stands in a statement. -/
def defaultText? (v : Value) : Option String :=
  match v.untagged with
  | null => none
  | bool b => some (if b then "TRUE" else "FALSE")
  | text s => some s
  | int n => some (Text.intText n)
  | real x => some x.text
  | list _ => none
  | w => w.taggedText?

end SchemaDesk.Value
