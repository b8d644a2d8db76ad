import SchemaDesk.Dialect
import SchemaDesk.Sql.Kind
import SchemaDesk.Sql.Function.Signature
import SchemaDesk.Text.Caseless
import SchemaDesk.Text.Find
/-!
Amounts of time. A text such as `1 day` is taken apart into the amount and the unit.
-/

namespace SchemaDesk.Sql.Interval

/-- An amount and a unit at the start of a text, with the count of their characters. -/
def start? (cs : List Char) : Option ((String × String) × Nat) :=
  let afterBlanks := cs.dropWhile Text.isBlank
  let (sign, unsigned) := match afterBlanks with
    | '-' :: rest => (['-'], rest)
    | rest => ([], rest)
  let whole := unsigned.takeWhile Char.isDigit
  let behind := unsigned.drop whole.length
  let places := match behind with
    | '.' :: rest => rest.takeWhile Char.isDigit
    | _ => []
  let amount := if places.isEmpty then whole else whole ++ '.' :: places
  let rest := (unsigned.drop amount.length).dropWhile Text.isBlank
  let unit := rest.takeWhile Char.isAlpha
  if whole.isEmpty || unit.isEmpty then none
  else
    let left := (rest.drop unit.length).dropWhile Text.isBlank
    some ((String.ofList (sign ++ amount), String.ofList unit), cs.length - left.length)

/-- All amounts and units of a text from the left. -/
def amounts (s : String) : List (String × String) := Text.allMatches start? 0 s.toList

/-- The units in the singular that MySQL asks for. -/
def singulars : List (String × String) := [
  ("MICROSECONDS", "MICROSECOND"), ("SECONDS", "SECOND"), ("MINUTES", "MINUTE"), ("HOURS", "HOUR"),
  ("DAYS", "DAY"), ("WEEKS", "WEEK"), ("MONTHS", "MONTH"), ("QUARTERS", "QUARTER"),
  ("YEARS", "YEAR")]

/-- The words for units of time. An amount that is a name of its own needs one of them behind it. -/
def unitWords : List String := [
  "YEAR", "Y", "YY", "YYY", "YYYY", "YR", "YEARS", "YRS", "MONTH", "MM", "MON", "MONS", "MONTHS",
  "DAY", "D", "DD", "DAYS", "DAYOFMONTH", "DAYOFWEEK", "WEEKDAY", "DOW", "DW", "DAYOFWEEKISO",
  "WEEKDAY_ISO", "DOW_ISO", "DW_ISO", "DAYOFWEEK_ISO", "DAYOFYEAR", "DOY", "DY", "WEEK", "W", "WK",
  "WEEKOFYEAR", "WOY", "WY", "WEEKISO", "WEEK_ISO", "WEEKOFYEARISO", "WEEKOFYEAR_ISO", "QUARTER",
  "Q", "QTR", "QTRS", "QUARTERS", "HOUR", "H", "HH", "HR", "HOURS", "HRS", "MINUTE", "M", "MI",
  "MIN", "MINUTES", "MINS", "SECOND", "S", "SEC", "SECONDS", "SECS", "MILLISECOND", "MS", "MSEC",
  "MSECS", "MSECOND", "MSECONDS", "MILLISEC", "MILLISECS", "MILLISECON", "MILLISECONDS",
  "MICROSECOND", "US", "USEC", "USECS", "MICROSEC", "MICROSECS", "USECOND", "USECONDS",
  "MICROSECONDS", "NANOSECOND", "NS", "NSEC", "NANOSEC", "NSECOND", "NSECONDS", "NANOSECS",
  "EPOCH", "EPOCH_SECOND", "EPOCH_SECONDS", "EPOCH_MILLISECOND", "EPOCH_MILLISECONDS",
  "EPOCH_MICROSECOND", "EPOCH_MICROSECONDS", "EPOCH_NANOSECOND", "EPOCH_NANOSECONDS",
  "TIMEZONE_HOUR", "TZH", "TIMEZONE_MINUTE", "TZM", "DECADE", "DEC", "DECS", "DECADES",
  "MILLENNIUM", "MIL", "MILS", "MILLENIA", "CENTURY", "C", "CENT", "CENTS", "CENTURIES",
  "SECOND_MICROSECOND", "MINUTE_MICROSECOND", "MINUTE_SECOND", "HOUR_MICROSECOND", "HOUR_SECOND",
  "HOUR_MINUTE", "DAY_MICROSECOND", "DAY_SECOND", "DAY_MINUTE", "DAY_HOUR", "YEAR_MONTH"]

/-- An amount of time between two units. -/
def spanning (d : Dialect) (amount : Expr) (units : String) : Expr :=
  let written : List Part := match d with
    | .postgresql => [.text ("INTERVAL '" ++ amount.ownName ++ "' " ++ units)]
    | _ => [.text "INTERVAL ", .value amount, .text (" " ++ units)]
  .phrase "interval" amount.heart? written

/-- Three months for each quarter, which PostgreSQL does not know. -/
def quarters? (amount : Expr) : Option Nat :=
  match amount.bare with
  | .text s => Text.readNat? s.toList
  | .number s => Text.readNat? s.toList
  | _ => none

/-- An amount of time with a unit in capital letters, or without one. -/
def of (d : Dialect) (amount : Expr) (unit : String) : Expr :=
  match d with
  | .mysql => .interval (some amount) ((singulars.lookup unit).getD unit)
  | .sqlite => .interval (some amount) unit
  | .postgresql =>
    match quarters? amount with
    | some n =>
      if Text.startsWith "QUARTER".toList unit.toList then
        .interval (some (.number (Text.natText (n * 3)))) "MONTH"
      else .interval (some amount) unit
    | none => .interval (some amount) unit

/-- An amount of time by a text that names its unit. -/
def ofText (d : Dialect) (s : String) : Expr :=
  match amounts s with
  | [(amount, unit)] => of d (.text amount) (Function.longUnit (Text.upper unit))
  | _ => of d (.text s) ""

/-- A number as the text of an amount. -/
def amountText (s : String) : String :=
  if Text.allDigits s.toList then ((Text.readNat? s.toList).map Text.natText).getD s
  else ((Text.dropEnd? ['.'] s.toList).map String.ofList).getD s

/-- The text of an amount that is a number, with its sign. -/
def numberText? (e : Expr) : Option String :=
  match e with
  | .noted _ e => numberText? e
  | .number s => some (amountText s)
  | .unary "neg" _ e => (numberText? e).map fun s =>
    if s == "0" then "0" else if Text.startsWith ['-'] s.toList then
      String.ofList (s.toList.drop 1) else "-" ++ s
  | _ => none

end SchemaDesk.Sql.Interval
