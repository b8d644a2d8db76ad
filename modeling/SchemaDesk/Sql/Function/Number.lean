import SchemaDesk.Sql.Function.Signature
/-!
Functions of numbers that are written in different ways: remainders, powers, logarithms, numbers in
base 16, and the greatest and the least of several values.
-/

namespace SchemaDesk.Sql.Function

/-- An operator in the place of a call. Operands that are operations themselves get parentheses. -/
def remainder : Builder
  | a :: b :: _ => .ok (.binary Operator.remainder [] a.wrapped b.wrapped)
  | es => .ok (named "mod" "MOD" es[0]? es)

def power (d : Dialect) : Builder
  | es@(a :: b :: _) => atMost 2 es (.binary (Operator.power d) [] a b)
  | es => .ok (named "pow" "POWER" es[0]? es)

/-- A logarithm. With two arguments the first one is the base; with one, MySQL takes the natural
one. -/
def logarithm (d : Dialect) : Builder
  | [a] => .ok (if d == .mysql then named "ln" "LN" (some a) [a] else named "log" "LOG" (some a) [a])
  | es => atMost 2 es (named "log" "LOG" es[0]? es)

/-- A logarithm to a fixed base. -/
def logarithmTo (base : String) : Builder := fun es =>
  atMost 2 es (named "log" "LOG" (some (.number base)) (.number base :: es.take 1))

def hexadecimal : Builder := fun es => atMost 1 es (named "hex" "HEX" es[0]? es)

/-- The argument of a text in base 16. -/
def hexArgument? (e : Expr) : Option Expr :=
  match e.bare with
  | .known "hex" _ (.text _ :: .value a :: _) => some a
  | .known "lowerhex" _ (.text _ :: .value a :: _) => some a
  | _ => none

/-- Small letters. A text in base 16 is written with both functions as one. -/
def lower : Builder := fun es =>
  match es.head?.bind hexArgument? with
  | some a => atMost 1 es (ofParts "lowerhex" (some a) [.text "LOWER(HEX(", .value a, .text "))"])
  | none => atMost 1 es (named "lower" "LOWER" es[0]? es)

/-- Capital letters, which a text in base 16 has already. -/
def upper : Builder := fun es =>
  match es.head?.bind hexArgument? with
  | some a => atMost 1 es (named "hex" "HEX" (some a) [a])
  | none => atMost 1 es (named "upper" "UPPER" es[0]? es)

/-- The greatest or least of several values. SQLite has no name of its own for it. -/
def extreme (d : Dialect) (kind name aggregate : String) : Builder
  | [e] => .ok (if d == .sqlite then ofParts kind (some e) [.value e] else named kind name (some e) [e])
  | es => .ok (named kind (if d == .sqlite then aggregate else name) es[0]? es)

/-- The greatest or least value of a group, or of several values. -/
def aggregateExtreme (d : Dialect) (kind name ofSeveral : String) : Builder := fun es =>
  .ok (named kind (if d != .sqlite && 1 < es.length then ofSeveral else name) es[0]? es)

def random (d : Dialect) : Builder := fun es =>
  atMost 3 es (named "rand" (if d == .mysql then "RAND" else "RANDOM") es[0]? es)

/-- A quotient without a rest. -/
def wholeQuotient : Builder := fun es =>
  .ok (castTo "DECIMAL" (named "intdiv" "DIV" es[0]? (es.take 2)))

/-- A hash of so many bits. PostgreSQL has a function for each count. -/
def hash (d : Dialect) : Builder := fun es =>
  match d with
  | .postgresql =>
    let size := match es[1]? with
      | some e => e.plainName
      | none => "256"
    atMost 2 es (named "sha2" ("SHA" ++ size) es[0]? (es.take 1))
  | _ => atMost 2 es (named "sha2" "SHA2" es[0]? es)

/-- A hash whose name tells the count of its bits. -/
def sizedHash (size : String) : Builder := fun es =>
  atMost 2 es (named "sha2" ("SHA" ++ size) es[0]? (es.take 1))

/-- A new random identifier. -/
def identifier (d : Dialect) : Builder := fun es =>
  atMost 2 es (match d with
    | .postgresql => named "uuid" "GEN_RANDOM_UUID" es[0]? []
    | .mysql => named "uuid" "UUID" es[0]? []
    | .sqlite => named "uuid" "UUID" es[0]? es)

def numberFunction? (d : Dialect) (name : String) : Option Builder :=
  match name with
  | "MOD" => some remainder
  | "POWER" => some (power d)
  | "POW" => some (power d)
  | "LOG" => some (logarithm d)
  | "LOG2" => some (logarithmTo "2")
  | "LOG10" => some (logarithmTo "10")
  | "HEX" => some hexadecimal
  | "TO_HEX" => some hexadecimal
  | "LOWER" => some lower
  | "UPPER" => some upper
  | "GREATEST" => some (extreme d "greatest" "GREATEST" "MAX")
  | "LEAST" => some (extreme d "least" "LEAST" "MIN")
  | "MAX" => some (aggregateExtreme d "max" "MAX" "GREATEST")
  | "MIN" => some (aggregateExtreme d "min" "MIN" "LEAST")
  | "RAND" => some (random d)
  | "RANDOM" => some (random d)
  | "UUID" => some (identifier d)
  | "GEN_RANDOM_UUID" => some (identifier d)
  | "GENERATE_UUID" => some (identifier d)
  | "UUID_STRING" => some (identifier d)
  | "DIV" => if d == .postgresql then some wholeQuotient else none
  | "SHA2" => some (hash d)
  | "SHA256" => if d == .postgresql then some (sizedHash "256") else none
  | "SHA384" => if d == .postgresql then some (sizedHash "384") else none
  | "SHA512" => if d == .postgresql then some (sizedHash "512") else none
  | _ => none

end SchemaDesk.Sql.Function
