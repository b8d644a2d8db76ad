import SchemaDesk.Text.Case
import SchemaDesk.Text.Blank
/-!
The words and marks of a script, each with its place in the text.
-/

namespace SchemaDesk.Sql

inductive TokenKind
  /-- A word that no list knows. -/
  | word
  /-- A name between quotation marks. -/
  | quoted
  | text
  /-- A text between tags, in which nothing has a meaning of its own. -/
  | raw
  /-- A text of the national character set. -/
  | national
  | number
  | bits
  | hex
  /-- A text with escapes. -/
  | escaped
  /-- A reserved or otherwise known word, under its main spelling. -/
  | keyword (name : String)
  /-- The name of a type, under its main spelling. -/
  | type (name : String)
  | mark (symbol : String)
  deriving DecidableEq, Repr

/-- `start` and `stop` are the offsets of the first and of the last character. -/
structure Token where
  kind : TokenKind
  /-- The characters of a word or a mark, or the content of a quoted name or a text. -/
  text : String
  start : Nat
  stop : Nat
  /-- The comments that belong to the token, without their marks. -/
  comments : List String := []
  deriving DecidableEq, Repr

namespace Token

/-- The text in upper case with single spaces, the form in which words are compared. -/
def caseless (t : Token) : String := Text.collapse (Text.upper t.text)

def isMark (t : Token) (symbol : String) : Bool := t.kind == .mark symbol

def isKeyword (t : Token) (name : String) : Bool := t.kind == .keyword name

/-- The token reads as the given word, whatever kind of word or name it is. -/
def reads (t : Token) (word : String) : Bool := t.kind != .text && t.caseless == word

end Token

/-- A place in a text, counted from one. -/
structure Location where
  line : Nat
  column : Nat
  deriving DecidableEq, Repr

namespace Location

/-- The place `n` characters further on. A line ends with a line feed, or with a carriage return that
no line feed follows. -/
def advance (l : Location) : Nat → List Char → Location
  | 0, _ => l
  | _, [] => l
  | n + 1, c :: cs =>
    if c == '\n' || (c == '\r' && cs.head? != some '\n') then
      advance ⟨l.line + 1, 1⟩ n cs
    else advance ⟨l.line, l.column + 1⟩ n cs

/-- The place of the character at an offset. -/
def ofOffset (text : List Char) (offset : Nat) : Location := advance ⟨1, 1⟩ offset text

end Location

end SchemaDesk.Sql
