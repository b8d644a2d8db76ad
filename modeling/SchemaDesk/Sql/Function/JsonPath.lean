import SchemaDesk.Text.Digit
import SchemaDesk.Text.Find
/-!
Paths to a part of a JSON value: keys, places in an array, and wildcards, read from a text such as
`$.a[0]` and written back in one form.
-/

namespace SchemaDesk.Sql

inductive PathStep
  | key (name : String)
  | everyKey
  | item (place : Int)
  | everyItem
  /-- All parts at any depth, of some name or of none. -/
  | deep (name : String)
  | wildcard
  deriving DecidableEq, Repr

namespace PathStep

/-- Characters with a meaning of their own. -/
def marks : List Char := "()[]:,-.?@'\"$*".toList

def isPlain (c : Char) : Bool := !marks.contains c && !Text.isBlank c

/-- The text up to an unescaped closing mark, and the rest. -/
def quoted? (mark : Char) : List Char → Option (List Char × List Char)
  | [] => none
  | '\\' :: c :: cs =>
    if c == mark || c == '\\' then (quoted? mark cs).map fun (s, rest) => (c :: s, rest)
    else (quoted? mark (c :: cs)).map fun (s, rest) => ('\\' :: s, rest)
  | c :: cs =>
    if c == mark then some ([], cs) else (quoted? mark cs).map fun (s, rest) => (c :: s, rest)

/-- A key without quotation marks: words with blanks around them, none of which starts with a
digit. -/
def plainKey? (cs : List Char) : Option (String × List Char) :=
  let run := cs.takeWhile fun c => isPlain c || Text.isBlank c
  let ws := Text.words run
  if ws.isEmpty || ws.any fun w => (w.head?.map Text.isDigit).getD true then none
  else some (String.ofList run, cs.drop run.length)

def natural? (cs : List Char) : Option (Nat × List Char) :=
  let digits := cs.takeWhile Char.isDigit
  (Text.readNat? digits).map fun n => (n, cs.drop digits.length)

def skipBlanks (cs : List Char) : List Char := cs.dropWhile Text.isBlank

/-- What stands behind an opening bracket, without the closing one. -/
def inBrackets? (cs : List Char) : Option (PathStep × List Char) :=
  match skipBlanks cs with
  | '\'' :: rest => (quoted? '\'' rest).map fun (s, rest) => (.key (String.ofList s), rest)
  | '"' :: rest => (quoted? '"' rest).map fun (s, rest) => (.key (String.ofList s), rest)
  | '*' :: rest => some (.everyItem, rest)
  | '-' :: rest => (natural? (skipBlanks rest)).map fun (n, rest) => (.item (-(n : Int)), rest)
  | rest => (natural? rest).map fun (n, rest) => (.item n, rest)

/-- A step behind a dot. -/
def behindDot? (cs : List Char) : Option (PathStep × List Char) :=
  match skipBlanks cs with
  | '"' :: rest =>
    match quoted? '"' rest with
    | some (s, rest) => if s.isEmpty then none else some (.key (String.ofList s), rest)
    | none => none
  | '*' :: rest => some (.everyKey, rest)
  | _ => (plainKey? cs).map fun (s, rest) => (.key s, rest)

/-- The first step of a path. -/
def first? (cs : List Char) : Option (PathStep × List Char) :=
  match skipBlanks cs with
  | '.' :: '.' :: rest =>
    match behindDot? rest with
    | some (.key s, rest) => some (.deep s, rest)
    | some (.everyKey, rest) => some (.deep "*", rest)
    | _ => some (.deep "", rest)
  | '.' :: rest => behindDot? rest
  | ':' :: rest => behindDot? rest
  | '[' :: rest =>
    match inBrackets? rest with
    | some (step, rest) =>
      match skipBlanks rest with
      | ']' :: rest => some (step, rest)
      | _ => none
    | none => none
  | '"' :: rest => (quoted? '"' rest).map fun (s, rest) => (.key (String.ofList s), rest)
  | '*' :: rest => some (.wildcard, rest)
  | _ => (plainKey? cs).map fun (s, rest) => (.key s, rest)

/-- All steps of a path; `fuel` bounds their count. -/
def steps? : Nat → List Char → Option (List PathStep)
  | 0, _ => none
  | fuel + 1, cs =>
    if (skipBlanks cs).isEmpty then some []
    else do
      let (step, rest) ← first? cs
      return step :: (← steps? fuel rest)

/-- The steps of a path, which may start with a dollar sign. -/
def read? (s : String) : Option (List PathStep) :=
  let cs := match skipBlanks s.toList with
    | '$' :: rest => rest
    | _ => s.toList
  steps? (cs.length + 1) cs

/-- A key that needs no quotation marks. -/
def isSafeKey (cs : List Char) : Bool :=
  match cs with
  | [] => false
  | c :: rest => (c.isAlpha || c == '_') && rest.all Text.isWordChar

def text : PathStep → String
  | .key s =>
    if isSafeKey s.toList then "." ++ s else ".\"" ++ Text.replace s "\"" "\\\"" ++ "\""
  | .everyKey => ".*"
  | .item n => "[" ++ Text.intText n ++ "]"
  | .everyItem => "[*]"
  | .deep s => ".." ++ s
  | .wildcard => "*"

/-- A step to one part at most. -/
def isSingle : PathStep → Bool
  | .key _ | .item _ => true
  | _ => false

/-- A path from the whole value. -/
def path (steps : List PathStep) : String := "$" ++ String.join (steps.map text)

end PathStep

end SchemaDesk.Sql
