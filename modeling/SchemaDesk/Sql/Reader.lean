import SchemaDesk.Dialect
import SchemaDesk.Sql.Lexer
import SchemaDesk.Sql.Syntax
/-!
Reading a statement from its tokens. A reader that does not find what it looks for leaves the cursor
where it was and gives nothing; only what must stand in its place is a fault.

The comments of the last token wait at the cursor until a tree takes them or another token follows.
-/

namespace SchemaDesk.Sql

/-- A place between the tokens of a statement. -/
structure Cursor where
  last : Option Token := none
  rest : List Token
  /-- The comments of the last token, unless something has taken them. -/
  comments : List String := []

abbrev Reader := StateT Cursor (Except SyntaxFault)

namespace Reader

def peek : Reader (Option Token) := do return (← get).rest.head?

/-- The token behind the next one. -/
def peekSecond : Reader (Option Token) := do return (← get).rest.tail.head?

def last : Reader (Option Token) := do return (← get).last

/-- How many tokens are left. -/
def remaining : Reader Nat := do return (← get).rest.length

def atEnd : Reader Bool := do return (← get).rest.isEmpty

/-- Steps over the next token. -/
def next : Reader (Option Token) := do
  let c ← get
  match c.rest with
  | [] => return none
  | t :: ts =>
    set ({ last := some t, rest := ts, comments := t.comments } : Cursor)
    return some t

/-- Goes back to an earlier place, where the comments wait again. -/
def returnTo (c : Cursor) : Reader Unit := do
  set ({ c with comments := (c.last.map (·.comments)).getD [] } : Cursor)

/-- Goes back to an earlier place, unless it is the current one. -/
def backTo (c : Cursor) : Reader Unit := do
  if (← remaining) != c.rest.length then returnTo c

/-- The comments that wait at the cursor. -/
def waiting : Reader (List String) := do return (← get).comments

/-- Takes the comments that wait at the cursor. -/
def takeComments : Reader (List String) := do
  let c ← get
  set ({ c with comments := [] } : Cursor)
  return c.comments

/-- An expression that takes the waiting comments. -/
def noted (e : Expr) : Reader Expr := do return e.note (← takeComments)

/-- An expression with the given comments, or with the waiting ones if none are given. -/
def notedBy (comments : List String) (e : Expr) : Reader Expr := do
  if comments.isEmpty then noted e else return e.note comments

/-- A fault at the next token, or at the last one if there is no next. -/
def fault (cause : SyntaxCause) : Reader α := do
  let c ← get
  let offset := match c.rest.head?.or c.last with
    | some t => t.stop
    | none => 0
  throw ⟨cause, offset⟩

/-- A fault at a token. -/
def faultAt (t : Token) (cause : SyntaxCause) : Reader α := throw ⟨cause, t.stop⟩

/-- A fault at the last token. -/
def faultAtLast (cause : SyntaxCause) : Reader α := do
  throw ⟨cause, ((← last).map (·.stop)).getD 0⟩

/-- Steps over the next token if it satisfies the predicate. -/
def takeIf (p : Token → Bool) : Reader (Option Token) := do
  match ← peek with
  | some t => if p t then next else return none
  | none => return none

def skipIf (p : Token → Bool) : Reader Bool := do return (← takeIf p).isSome

def nextIs (p : Token → Bool) : Reader Bool := do
  match ← peek with
  | some t => return p t
  | none => return false

def secondIs (p : Token → Bool) : Reader Bool := do
  match ← peekSecond with
  | some t => return p t
  | none => return false

def lastIs (p : Token → Bool) : Reader Bool := do return ((← last).map p).getD false

def mark (symbol : String) : Reader Bool := skipIf (·.isMark symbol)

def keyword (name : String) : Reader Bool := skipIf (·.isKeyword name)

def nextIsMark (symbol : String) : Reader Bool := nextIs (·.isMark symbol)

def nextIsKeyword (name : String) : Reader Bool := nextIs (·.isKeyword name)

/-- Two tokens in a row, or none of them. -/
def pair (p q : Token → Bool) : Reader Bool := do
  if ← (nextIs p <&&> secondIs q) then
    let _ ← next
    let _ ← next
    return true
  return false

def keywords (a b : String) : Reader Bool := pair (·.isKeyword a) (·.isKeyword b)

/-- The given words in a row from here on. -/
def wordsFrom (start : Cursor) : List String → Reader Bool
  | [] => return true
  | w :: ws => do
    if ← skipIf (·.reads w) then wordsFrom start ws
    else
      backTo start
      return false

/-- The given words in a row, or none of them. -/
def words (ws : List String) : Reader Bool := do wordsFrom (← get) ws

def word (w : String) : Reader Bool := words [w]

/-- One of the given words. -/
def oneOf (ws : List String) : Reader (Option String) := do
  match ← takeIf fun t => t.kind != .text && ws.contains t.caseless with
  | some t => return some t.caseless
  | none => return none

def expectMark (symbol : String) : Reader Unit := do
  if ← mark symbol then return () else fault (.expected symbol)

/-- The closing parenthesis behind an expression, which takes the comments there. -/
def closeBehind (e : Expr) : Reader Expr := do
  expectMark ")"
  noted e

/-- Runs a reader, and goes back to where it started if it gives nothing or fails. -/
def attempt (r : Reader (Option α)) : Reader (Option α) := do
  let c ← get
  match r.run c with
  | .ok (some a, c') =>
    set c'
    return some a
  | .ok (none, c') =>
    set c'
    backTo c
    return none
  | .error _ =>
    returnTo c
    return none

/-- Repeats a reader as long as it gives something; `fuel` bounds the count. -/
def repeatFor (r : Reader (Option α)) : Nat → Reader (List α)
  | 0 => return []
  | fuel + 1 => do
    match ← r with
    | none => return []
    | some a => return a :: (← repeatFor r fuel)

/-- Repeats a reader that steps over a token at least as long as it gives something. -/
def many (r : Reader (Option α)) : Reader (List α) := do repeatFor r ((← remaining) + 1)

/-- Items behind further commas. The item in front of a comma may take something there. -/
def moreItems (r : Reader (Option α)) (atComma : α → Reader α) (item : Option α) :
    Nat → Reader (List α)
  | 0 => return item.toList
  | fuel + 1 => do
    if ← mark "," then
      let before ← item.mapM atComma
      return before.toList ++ (← moreItems r atComma (← r) fuel)
    return item.toList

/-- Items between commas; missing ones are left out. -/
def items (r : Reader (Option α)) : Reader (List α) := do
  moreItems r pure (← r) (← remaining)

/-- Expressions between commas. The comments of a comma belong to the expression in front of it. -/
def values (r : Reader (Option Expr)) : Reader (List Expr) := do
  moreItems r noted (← r) (← remaining)

/-- Something between parentheses, which must be there. -/
def wrapped (r : Reader α) : Reader α := do
  expectMark "("
  let a ← r
  expectMark ")"
  return a

/-- Extends a value as long as the step gives a longer one; `fuel` bounds the count. -/
def extendFor (step : α → Reader (Option α)) : Nat → α → Reader α
  | 0, a => return a
  | fuel + 1, a => do
    match ← step a with
    | none => return a
    | some b => extendFor step fuel b

/-- Extends a value as long as the step gives a longer one and steps over a token at least. -/
def extend (step : α → Reader (Option α)) (a : α) : Reader α := do
  extendFor step ((← remaining) + 1) a

/-- The first reader that gives something. -/
def orElse (r s : Reader (Option α)) : Reader (Option α) := do
  match ← r with
  | some a => return some a
  | none => s

end Reader

end SchemaDesk.Sql
