import SchemaDesk.Dialect
/-!
Formats of times. Each dialect has codes of its own for the parts of a time. A format is read into
the codes that all dialects share, and written in those of the dialect.
-/

namespace SchemaDesk.Sql.TimeFormat

/-- The codes of a dialect with the common ones. -/
def codes : Dialect → List (String × String)
  | .mysql => [
    ("%M", "%B"), ("%c", "%-m"), ("%e", "%-d"), ("%h", "%I"), ("%i", "%M"), ("%s", "%S"),
    ("%u", "%W"), ("%k", "%-H"), ("%l", "%-I"), ("%T", "%H:%M:%S"), ("%W", "%A")]
  | .postgresql => [
    ("AM", "%p"), ("PM", "%p"), ("d", "%u"), ("D", "%u"), ("dd", "%d"), ("DD", "%d"),
    ("ddd", "%j"), ("DDD", "%j"), ("FMDD", "%-d"), ("FMDDD", "%-j"), ("FMHH12", "%-I"),
    ("FMHH24", "%-H"), ("FMMI", "%-M"), ("FMMM", "%-m"), ("FMSS", "%-S"), ("HH12", "%I"),
    ("HH24", "%H"), ("mi", "%M"), ("MI", "%M"), ("mm", "%m"), ("MM", "%m"), ("OF", "%z"),
    ("ss", "%S"), ("SS", "%S"), ("TMDay", "%A"), ("TMDy", "%a"), ("TMMon", "%b"),
    ("TMMonth", "%B"), ("TZ", "%Z"), ("US", "%f"), ("ww", "%U"), ("WW", "%U"), ("yy", "%y"),
    ("YY", "%y"), ("yyyy", "%Y"), ("YYYY", "%Y")]
  | .sqlite => []

/-- The common codes with those of a dialect; of several the last one counts. -/
def inverse (d : Dialect) : List (String × String) :=
  (codes d).reverse.map fun (own, common) => (common, own)

/-- A window on a text that is cut into codes: `size` characters of `rest` are looked at, `matched`
of them are known to start a code, and `found` is the last code seen since the last cut. -/
structure Window where
  rest : List Char
  size : Nat := 1
  matched : List Char := []
  found : Option (List Char) := none

/-- Cuts a text into codes and single characters, from the left and with long codes first. A code
that is cut off does not shrink the window again. `fuel` bounds the count of steps. -/
def cut (known : List (List Char)) : Nat → Window → List (List Char)
  | 0, _ => []
  | fuel + 1, w =>
    let chars := w.rest.take w.size
    if w.rest.length < w.size then []
    else
      match chars.getLast? with
      | none => []
      | some c =>
        let matched := w.matched ++ [c]
        if known.any fun k => matched.isPrefixOf k then
          let found := if known.contains matched then some chars else w.found
          if w.rest.length == w.size then [chars]
          else cut known fuel { w with size := w.size + 1, matched, found }
        else
          match w.found with
          | some code =>
            code :: cut known fuel
              { rest := w.rest.drop code.length, size := w.size - code.length }
          | none => w.rest.take 1 :: cut known fuel { rest := w.rest.drop 1 }

/-- The format in other codes. -/
def exchange (table : List (String × String)) (s : String) : String :=
  let cs := s.toList
  let chunks := cut (table.map (·.1.toList)) ((cs.length + 1) * (cs.length + 1)) { rest := cs }
  String.join (chunks.map fun chunk =>
    let s := String.ofList chunk
    (table.lookup s).getD s)

/-- A format of a dialect in the common codes. An empty one has none. -/
def read (d : Dialect) (s : String) : String := if s == "" then "None" else exchange (codes d) s

/-- A format in the common codes in those of a dialect. -/
def write (d : Dialect) (s : String) : String := exchange (inverse d) s

end SchemaDesk.Sql.TimeFormat
