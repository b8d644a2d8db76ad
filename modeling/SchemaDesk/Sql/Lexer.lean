import SchemaDesk.Sql.Keyword
import SchemaDesk.Sql.Quoting
import SchemaDesk.Text.Digit
import SchemaDesk.Text.Find
/-!
Scripts as lists of tokens. A script is cut into pieces from the left; blanks and comments make no
token, but a comment is kept with the token that it stands at.
-/

namespace SchemaDesk.Sql

/-- The first piece of a text. All sizes count characters and are positive. -/
inductive Piece
  | blank
  /-- A comment by what stands between its marks. -/
  | comment (text : String) (size : Nat)
  | token (kind : TokenKind) (text : String) (size : Nat)
  /-- A text, a name or a comment that has no end. -/
  | unclosed
  deriving Repr

namespace Lexer

def isBreaker (c : Char) : Bool := Text.isBlank c || Keyword.breakers.contains c

/-- How many characters of the text a phrase takes, any blanks for each space of it. -/
def phraseSize? : List Char → List Char → Option Nat
  | [], _ => some 0
  | _ :: _, [] => none
  | p :: ps, c :: cs =>
    if p == ' ' then
      if Text.isBlank c then
        let blanks := (c :: cs).takeWhile Text.isBlank
        (phraseSize? ps (cs.dropWhile Text.isBlank)).map (· + blanks.length)
      else none
    else if Text.upperChar c == [p] then (phraseSize? ps cs).map (· + 1)
    else none

/-- A phrase ends before a blank, before a mark and at the end. -/
def phrase? (d : Dialect) (cs : List Char) : Option (TokenKind × Nat) :=
  (Keyword.ofPhrases d).findSome? fun (phrase, kind) =>
    match phraseSize? phrase.toList cs with
    | none => none
    | some n =>
      match cs.drop n with
      | [] => some (kind, n)
      | c :: _ => if isBreaker c then some (kind, n) else none

/-- Special readings of marks. -/
def markKind (symbol : String) : TokenKind :=
  if symbol == "!" then .keyword "NOT"
  else if symbol == "==" then .mark "="
  else if symbol == "!=" then .mark "<>"
  else if symbol == "~~" then .keyword "LIKE"
  else if symbol == "~~*" then .keyword "ILIKE"
  else if symbol == "~~~" then .keyword "GLOB"
  else if symbol == "~*" then .keyword "IRLIKE"
  else .mark symbol

def mark? (d : Dialect) (cs : List Char) : Option String :=
  (Keyword.dialectMarks d ++ Keyword.commonMarks).find? fun m => Text.startsWith m.toList cs

/-- The marks around a comment. -/
structure CommentMarks where
  opening : List Char
  closing : List Char

/-- How many characters of a comment stand in front of its closing mark; `depth` further comments are
open. In a dialect with nested comments an opening mark counts, except directly behind another one. -/
def bodySize? (m : CommentMarks) (nested fresh : Bool) (depth skip : Nat) : List Char → Option Nat
  | [] => none
  | c :: cs =>
    match skip with
    | n + 1 => (bodySize? m nested (n == 0 && fresh) depth n cs).map (· + 1)
    | 0 =>
      if Text.startsWith m.closing (c :: cs) && depth == 0 then some 0
      else
        let closes := Text.startsWith m.closing (c :: cs)
        let opens := nested && !fresh && Text.startsWith m.opening (c :: cs)
        let depth := if closes then depth - 1 else if opens then depth + 1 else depth
        let more := if opens && !closes then m.opening.length - 1 else 0
        (bodySize? m nested (opens && !closes) depth more cs).map (· + 1)

def blockMarks : CommentMarks := ⟨"/*".toList, "*/".toList⟩

/-- The marks of comments in templates. -/
def templateMarks : CommentMarks := ⟨['\x7b', '#'], ['#', '\x7d']⟩

def lineSize (cs : List Char) : Nat := (cs.takeWhile fun c => c != '\n' && c != '\r').length

/-- A comment up to the end of the line, behind an opening mark of some characters. -/
def lineComment (opening : Nat) (cs : List Char) : Piece :=
  let line := cs.take (lineSize cs)
  .comment (String.ofList (line.drop opening)) line.length

/-- A comment that starts with its opening mark. In MySQL a plus sign may belong to the mark. -/
def blockComment (d : Dialect) (m : CommentMarks) (cs : List Char) : Piece :=
  let opening := m.opening.length +
    (if d == .mysql && Text.startsWith "/*+".toList cs then 1 else 0)
  let body := cs.drop opening
  match bodySize? m (d == .postgresql) true 0 0 body with
  | some n => .comment (String.ofList (body.take n)) (opening + n + m.closing.length)
  | none => .unclosed

/-- A comment at the start of the text. In MySQL a number sign makes one, unless it belongs to a mark. -/
def comment? (d : Dialect) (cs : List Char) : Option Piece :=
  if Text.startsWith "--".toList cs then some (lineComment 2 cs)
  else if d == .mysql && Text.startsWith ['#'] cs && !Text.startsWith ['#', '>'] cs then some (lineComment 1 cs)
  else if Text.startsWith blockMarks.opening cs then some (blockComment d blockMarks cs)
  else if Text.startsWith templateMarks.opening cs then some (blockComment d templateMarks cs)
  else none

def ofQuoted (kind : TokenKind) (opening : Nat) : Option Quoted → Piece
  | some q => .token kind (String.ofList q.content) (opening + q.size)
  | none => .unclosed

/-- The closing mark of a name. -/
def nameMark? (d : Dialect) (c : Char) : Option Char :=
  match d with
  | .postgresql => if c == '"' then some '"' else none
  | .mysql => if c == '`' then some '`' else none
  | .sqlite =>
    if c == '"' || c == '`' then some c else if c == '[' then some ']' else none

/-- A name of a dialect behind its opening mark. -/
def nameContent (d : Dialect) (mark : Char) (cs : List Char) : Option Quoted :=
  match d with
  | .mysql => Quoted.doubled mark cs
  | _ => Quoted.doubled mark cs

def isHexDigit (c : Char) : Bool :=
  c.isDigit || ('a' ≤ c && c ≤ 'f') || ('A' ≤ c && c ≤ 'F')

def isBit (c : Char) : Bool := c == '0' || c == '1'

/-- A number in quotation marks must have digits of its kind only. -/
def ofDigits (kind : TokenKind) (isDigit : Char → Bool) (opening : Nat) : Option Quoted → Piece
  | some q => if q.content.all isDigit then ofQuoted kind opening (some q) else .unclosed
  | none => .unclosed

/-- A text at the start, with or without a letter that tells its kind. -/
def text? (d : Dialect) (cs : List Char) : Option Piece :=
  match cs with
  | '\'' :: rest => some (ofQuoted .text 1 (Quoted.text d '\'' rest))
  | '"' :: rest => if d == .mysql then some (ofQuoted .text 1 (Quoted.text d '"' rest)) else none
  | p :: '\'' :: rest =>
    let content := Quoted.text d '\'' rest
    if p == 'n' || p == 'N' then some (ofQuoted .national 2 content)
    else if p == 'x' || p == 'X' then some (ofDigits .hex isHexDigit 2 content)
    else if (p == 'b' || p == 'B') && d != .sqlite then some (ofDigits .bits isBit 2 content)
    else if (p == 'e' || p == 'E') && d == .postgresql then some (ofQuoted .escaped 2 content)
    else none
  | _ => none

/-- A text between two equal tags, such as `$$` or `$body$`; without a second tag, the dollar sign
stands for a parameter. -/
def dollar? (d : Dialect) (cs : List Char) : Option Piece :=
  match d, cs with
  | .postgresql, '$' :: rest =>
    let tag := rest.takeWhile (· != '$')
    let body := (rest.drop tag.length).drop 1
    if tag.length == rest.length || (!tag.isEmpty && Text.allDigits tag) || tag.any Text.isBlank then
      some (.token (.mark "$") "$" 1)
    else
      let delimiter := '$' :: tag ++ ['$']
      match Text.find? delimiter body with
      | some n => some (.token .raw (String.ofList (body.take n)) (n + 2 * delimiter.length))
      | none => some .unclosed
  | _, _ => none

/-- How many characters belong to a number: digits with one point and one exponent, whose sign needs
a digit behind it. -/
def numberSize (point exponent : Bool) : List Char → Nat
  | [] => 0
  | c :: cs =>
    if Text.isDigit c then numberSize point exponent cs + 1
    else if c == '.' && !point then numberSize true exponent cs + 1
    else if (c == 'e' || c == 'E') && !exponent then
      match cs with
      | s :: d :: rest =>
        if s == '+' || s == '-' then
          if Text.isDigit d then numberSize point true rest + 3 else 1
        else numberSize point true (s :: d :: rest) + 1
      | rest => numberSize point true rest + 1
    else 0

def wordSize (cs : List Char) : Nat := (cs.takeWhile fun c => !isBreaker c).length

/-- A number in base 16 or 2 that starts with `0x` or `0b`; as a name if it has other digits. -/
def basedNumber (kind : TokenKind) (isDigit : Char → Bool) (cs : List Char) : Piece :=
  let n := wordSize cs
  let digits := (cs.take n).drop 2
  if !digits.isEmpty && digits.all isDigit then .token kind (String.ofList digits) n
  else .token .quoted (String.ofList (cs.take n)) n

/-- A number, or in MySQL a word that starts with digits. -/
def number (d : Dialect) (cs : List Char) : Piece :=
  match cs with
  | '0' :: 'x' :: _ => basedNumber .hex isHexDigit cs
  | '0' :: 'X' :: _ => basedNumber .hex isHexDigit cs
  | _ =>
    if Text.startsWith ['0', 'B'] (Text.upperChars (cs.take 2)) && d != .sqlite then
      basedNumber .bits isBit cs
    else
      let n := numberSize false false cs
      let rest := cs.drop n
      let w := wordSize rest
      if d == .mysql && 0 < w && (rest.head?.map Text.isWordChar).getD false then
        .token .word (String.ofList (cs.take (n + w))) (n + w)
      else .token .number (String.ofList (cs.take n)) n

def word (d : Dialect) (cs : List Char) : Piece :=
  let n := max 1 (wordSize cs)
  let w := String.ofList (cs.take n)
  .token (Keyword.ofWord d (Text.upper w)) w n

/-- A mark, or a word if no mark starts the text. -/
def markOrWord (d : Dialect) (c : Char) (cs : List Char) : Piece :=
  match mark? d (c :: cs) with
  | some m => .token (markKind m) m m.length
  | none =>
    if Keyword.breakers.contains c then
      .token (if c == '~' && d == .postgresql then .keyword "RLIKE" else markKind (String.singleton c))
        (String.singleton c) 1
    else word d (c :: cs)

/-- The first piece of the text `c :: cs`. -/
def piece (d : Dialect) (c : Char) (cs : List Char) : Piece :=
  if Text.isBlank c then .blank
  else if Text.isDigit c then number d (c :: cs)
  else match nameMark? d c with
    | some mark => ofQuoted .quoted 1 (nameContent d mark cs)
    | none => match comment? d (c :: cs) with
      | some p => p
      | none => match text? d (c :: cs) with
        | some p => p
        | none => match dollar? d (c :: cs) with
          | some p => p
          | none => match phrase? d (c :: cs) with
            | some (kind, n) => .token kind (String.ofList ((c :: cs).take n)) n
            | none => markOrWord d c cs

/-- A piece in the course of a script. -/
inductive Item
  | token (t : Token)
  /-- A comment with the offsets of its first and of its last character. -/
  | comment (text : String) (start stop : Nat)
  deriving DecidableEq, Repr

/-- The pieces of a text that starts at an offset; `none` if one has no end. The counter tells how
many characters of the current piece are left. -/
def items (d : Dialect) (offset skip : Nat) : List Char → Option (List Item)
  | [] => some []
  | c :: cs =>
    match skip with
    | n + 1 => items d (offset + 1) n cs
    | 0 =>
      match piece d c cs with
      | .blank => items d (offset + 1) 0 cs
      | .comment text n =>
        (items d (offset + 1) (n - 1) cs).map (.comment text offset (offset + (n - 1)) :: ·)
      | .token kind text n =>
        (items d (offset + 1) (n - 1) cs).map
          (.token ⟨kind, text, offset, offset + (n - 1), []⟩ :: ·)
      | .unclosed => none

/-- Whether there is a line break between two offsets. -/
def breaksBetween (text : List Char) (start stop : Nat) : Bool :=
  ((text.drop start).take (stop - start)).any fun c => c == '\n' || c == '\r'

/-- The last token with further comments. -/
def comment (comments : List String) : List Token → List Token
  | t :: ts => { t with comments := t.comments ++ comments } :: ts
  | [] => []

/-- Tokens with their comments, the last one first in `done`. A comment that starts in the line in
which the token before it ends, or a comment that belongs to that token, belongs to that token;
`reached` is the offset behind them. Other comments are `pending` for the token behind them, except
that a semicolon leaves them to the token in front of it. Comments at the end belong to the last
token. -/
def attach (text : List Char) (done : List Token) (reached : Nat) (pending : List String) :
    List Item → List Token
  | [] => (comment pending done).reverse
  | .comment s start stop :: rest =>
    if done.isEmpty || breaksBetween text reached start then
      attach text done reached (pending ++ [s]) rest
    else attach text (comment (pending ++ [s]) done) (stop + 1) [] rest
  | .token t :: rest =>
    if t.isMark ";" && !done.isEmpty then
      attach text (t :: comment pending done) (t.stop + 1) [] rest
    else attach text ({ t with comments := pending } :: done) (t.stop + 1) [] rest

/-- Words at the start of a statement behind which all is one text. -/
def swallows (d : Dialect) (t : Token) : Bool :=
  match t.kind with
  | .keyword name =>
    name == "COMMAND" || name == "EXECUTE" || name == "FETCH" || name == "RENAME" ||
      (name == "SHOW" && d != .mysql) || (name == "REPLACE" && d != .postgresql)
  | _ => false

/-- Replaces the tokens of such a statement by one text. `fresh` tells that a statement starts. -/
def swallow (d : Dialect) (text : List Char) (fresh : Bool) : List Token → List Token
  | [] => []
  | t :: ts =>
    if fresh && swallows d t then
      let body := ts.takeWhile fun u => !u.isMark ";"
      match body.getLast? with
      | none => t :: swallow d text false ts
      | some last =>
        let inner := Text.stripChars ((text.drop (t.stop + 1)).take (last.stop - t.stop))
        t :: ⟨.text, String.ofList inner, t.stop + 1, last.stop, []⟩ ::
          swallow d text false (ts.dropWhile fun u => !u.isMark ";")
    else t :: swallow d text (t.isMark ";" || t.isKeyword "BEGIN") ts
termination_by ts => ts.length
decreasing_by
  · simp
  · have := (List.dropWhile_suffix (l := ts) fun u => !u.isMark ";").length_le
    simp; omega
  · simp

/-- The tokens of a script; `none` if a text, a name or a comment has no end. -/
def tokens? (d : Dialect) (text : List Char) : Option (List Token) :=
  (items d 0 0 text).map fun is => swallow d text true (attach text [] 0 [] is)

end Lexer

end SchemaDesk.Sql
