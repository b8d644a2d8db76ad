/-!
Blank characters, and what is cut at them: the margins of a text, its words and its lines.
-/

namespace SchemaDesk.Text

/-- Blank in the sense of Unicode's bidirectional classes: the spaces, the line ends, and the four
information separators. -/
def isBlank (c : Char) : Bool :=
  let n := c.toNat
  (0x9 ≤ n && n ≤ 0xD) || (0x1C ≤ n && n ≤ 0x20) || n == 0x85 || n == 0xA0 || n == 0x1680 ||
    (0x2000 ≤ n && n ≤ 0x200A) || n == 0x2028 || n == 0x2029 || n == 0x202F || n == 0x205F ||
    n == 0x3000

def dropTrailingBlanks (cs : List Char) : List Char :=
  (cs.reverse.dropWhile isBlank).reverse

/-- The text without its blank margins. -/
def stripChars (cs : List Char) : List Char :=
  dropTrailingBlanks (cs.dropWhile isBlank)

def strip (s : String) : String :=
  String.ofList (stripChars s.toList)

/-- The maximal runs of characters that are not blank. -/
def words (cs : List Char) : List (List Char) :=
  (cs.splitOnP isBlank).filter fun w => !w.isEmpty

/-- Words with exactly one space between neighbours. -/
def collapseChars (cs : List Char) : List Char :=
  [' '].intercalate (words cs)

def collapse (s : String) : String :=
  String.ofList (collapseChars s.toList)

/-- Ends a line of displayed text; a carriage return and a line feed together end one line. -/
def isLineBreak (c : Char) : Bool :=
  let n := c.toNat
  (0xA ≤ n && n ≤ 0xD) || (0x1C ≤ n && n ≤ 0x1E) || n == 0x85 || n == 0x2028 || n == 0x2029

/-- The first line of a text, blank margins left out; `none` when nothing but blanks is there. -/
def firstLine? (s : String) : Option String :=
  match stripChars s.toList with
  | [] => none
  | cs => some (String.ofList (cs.takeWhile fun c => !isLineBreak c))

end SchemaDesk.Text
