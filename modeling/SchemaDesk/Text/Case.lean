import SchemaDesk.Text.CaseTable
/-!
Letter case beyond ASCII: upper and lower case of a text, where one letter may become several, and
the form of a text with a capital first letter.
-/

namespace SchemaDesk.Text

namespace CaseRun

def contains (r : CaseRun) (n : Nat) : Bool :=
  r.first ≤ n && n ≤ r.last && (n - r.first) % r.step == 0

end CaseRun

/-- The partner of a character in a list of runs. -/
def partner? (runs : List CaseRun) (c : Char) : Option Char :=
  (runs.find? (·.contains c.toNat)).map fun r => Char.ofNat ((c.toNat : Int) + r.shift).toNat

def inRanges (ranges : List (Nat × Nat)) (c : Char) : Bool :=
  ranges.any fun r => r.1 ≤ c.toNat && c.toNat ≤ r.2

def isAscii (c : Char) : Bool := c.toNat < 0x80

def upperChar (c : Char) : List Char :=
  if isAscii c then [c.toUpper]
  else match CaseTable.upperExpansions.lookup c.toNat with
    | some ns => ns.map Char.ofNat
    | none => [(partner? CaseTable.upperRuns c).getD c]

def isCased (c : Char) : Bool := inRanges CaseTable.casedRanges c

def isCaseIgnorable (c : Char) : Bool := inRanges CaseTable.ignorableRanges c

/-- The first character that is not ignorable is a letter with case. -/
def startsCased : List Char → Bool
  | [] => false
  | c :: cs => if isCaseIgnorable c then startsCased cs else isCased c

/-- The lower case of one character between what stands before it (nearest first) and after it:
a capital sigma that ends a word gets its final form. -/
def lowerChar (before : List Char) (c : Char) (after : List Char) : List Char :=
  if isAscii c then [c.toLower]
  else if c == 'Σ' then [if startsCased before && !startsCased after then 'ς' else 'σ']
  else if c == 'İ' then ['i', Char.ofNat 0x307]
  else [(partner? CaseTable.lowerRuns c).getD c]

def lowerFrom (before : List Char) : List Char → List Char
  | [] => []
  | c :: cs => lowerChar before c cs ++ lowerFrom (c :: before) cs

def upperChars (cs : List Char) : List Char := cs.flatMap upperChar

def lowerChars (cs : List Char) : List Char := lowerFrom [] cs

def upper (s : String) : String := String.ofList (upperChars s.toList)

def lower (s : String) : String := String.ofList (lowerChars s.toList)

def titleChar (c : Char) : List Char :=
  match CaseTable.titleExceptions.lookup c.toNat with
  | some ns => ns.map Char.ofNat
  | none => upperChar c

/-- The first letter in title case and all others in lower case. -/
def capitalize (s : String) : String :=
  match s.toList with
  | [] => ""
  | c :: cs => String.ofList (titleChar c ++ lowerFrom [c] cs)

/-- Equality of names without regard to case. -/
def sameName (a b : String) : Bool := lower a == lower b

end SchemaDesk.Text
