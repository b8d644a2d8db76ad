import SchemaDesk.Sql.Function.TimeFormat
import SchemaDesk.Sql.Interval
import SchemaDesk.Sql.Render
/-!
Functions of dates and times. The dialects differ in how times are shifted, cut off and compared, and
in which of these functions stand without parentheses.
-/

namespace SchemaDesk.Sql.Function

/-- The functions that may stand without parentheses. -/
def bareNames : Dialect → List String
  | .postgresql => [
    "CURRENT_DATE", "CURRENT_TIME", "CURRENT_TIMESTAMP", "CURRENT_USER", "LOCALTIME",
    "LOCALTIMESTAMP", "CURRENT_SCHEMA", "CURRENT_CATALOG", "SESSION_USER"]
  | _ => [
    "CURRENT_DATE", "CURRENT_TIME", "CURRENT_TIMESTAMP", "CURRENT_USER", "LOCALTIME",
    "LOCALTIMESTAMP"]

/-- The functions that a dialect writes without parentheses if they have no arguments. -/
def writtenBare : Dialect → List String
  | .postgresql => [
    "CURRENT_DATE", "CURRENT_TIMESTAMP", "CURRENT_USER", "LOCALTIME", "LOCALTIMESTAMP",
    "CURRENT_SCHEMA", "CURRENT_CATALOG", "SESSION_USER"]
  | .mysql => ["CURRENT_DATE", "LOCALTIME", "LOCALTIMESTAMP"]
  | .sqlite => [
    "CURRENT_DATE", "CURRENT_TIME", "CURRENT_TIMESTAMP", "LOCALTIME", "LOCALTIMESTAMP"]

/-- The functions whose arguments a dialect drops. -/
def argumentless : Dialect → List String
  | .postgresql => ["CURRENT_TIMESTAMP", "CURRENT_USER"]
  | .mysql => []
  | .sqlite => ["CURRENT_DATE", "CURRENT_TIME", "CURRENT_TIMESTAMP"]

/-- What the database knows by itself, such as the current time, perhaps with an argument. -/
def current (d : Dialect) (name : String) : Builder := fun es =>
  let kind := Text.lower (Text.replace name "_" "")
  if (argumentless d).contains name then .ok (bare kind name)
  else match es with
    | [] => .ok (if (writtenBare d).contains name then bare kind name else named kind name none [])
    | e :: _ =>
      if name == "CURRENT_DATE" && d != .sqlite then
        atMost 1 es (ofParts kind (some e) [.text "CURRENT_DATE AT TIME ZONE ", .value e])
      else atMost 2 es (named kind name (some e) es)

def currentNames : List String := [
  "CURRENT_DATE", "CURRENT_TIME", "CURRENT_TIMESTAMP", "CURRENT_USER", "LOCALTIME",
  "LOCALTIMESTAMP", "CURRENT_SCHEMA", "CURRENT_CATALOG", "SESSION_USER"]

/-- A unit of time as a text in capital letters. -/
def unitText (e : Expr) : Expr :=
  match unitName? e with
  | some s => .text (Text.upper (longUnit s))
  | none => e

/-- A time cut off at a unit, in MySQL put together from its parts. -/
def truncated (unit : String) (s : String) : List Part :=
  let date (parts format : String) : List Part :=
    [.text ("STR_TO_DATE(CONCAT(YEAR(" ++ s ++ "), ' " ++ parts ++ "), '" ++ format ++ "')")]
  match unit with
  | "WEEK" => date ("', WEEK(" ++ s ++ ", 1), ' 1'") "%Y %u %w"
  | "MONTH" => date ("', MONTH(" ++ s ++ "), ' 1'") "%Y %c %e"
  | "QUARTER" => date ("', QUARTER(" ++ s ++ ") * 3 - 2, ' 1'") "%Y %c %e"
  | "YEAR" => date "1 1'" "%Y %c %e"
  | _ => [.text ("DATE(" ++ s ++ ")")]

/-- A time cut off at a unit. -/
def truncation (d : Dialect) : Builder
  | es@(unit :: e :: rest) =>
    atMost 3 es (match d with
      | .postgresql => named "timestamptrunc" "DATE_TRUNC" (some e) [unitText (unitWord unit), e]
      | .mysql =>
        ofParts "datetrunc" (some e)
          (truncated (Text.upper (longUnit (Text.upper ((unitName? unit).getD "")))) (e.render d))
      | .sqlite =>
        let unit := match unitName? unit with
          | some s => .text (longUnit (Text.upper s))
          | none => unit
        named "datetrunc" "DATE_TRUNC" (some e) (unit :: e :: rest))
  | es => .ok (named "datetrunc" "DATE_TRUNC" es[1]? es)

/-- The last day of the month. PostgreSQL counts back from the next month. -/
def lastDay (d : Dialect) : Builder := fun es =>
  match d, es with
  | .postgresql, e :: _ =>
    let month := named "datetrunc" "DATE_TRUNC" (some e) [.text "MONTH", e]
    let next := Expr.binary Operator.add [] month (Interval.of d (.text "1") "MONTH")
    let last := Expr.binary Operator.subtract [] next (Interval.of d (.text "1") "DAY")
    atMost 2 es (ofParts "lastday" (some e) [.value (castTo "DATE" last)])
  | _, es =>
    atMost 2 es (named "lastday" "LAST_DAY" es[0]? (es.take 1 ++ (es.drop 1).map unitWord))

/-- The amount by which a time is shifted. -/
def shiftAmount (e : Expr) : Expr :=
  match Interval.numberText? e with
  | some s => .text s
  | none => e

/-- The text of an amount in quotation marks together with its unit. -/
def quotedAmount (d : Dialect) (amount : Expr) (unit : Option Expr) : Part :=
  let s := match amount.bare with
    | .text s => s
    | _ => amount.render d
  .text ("'" ++ s ++ (match unit with
    | some u => " " ++ (unitWord u).render d
    | none => "") ++ "'")

/-- A time shifted by an amount. -/
def shift (d : Dialect) (kind name symbol : String) : Builder
  | es@(e :: amount :: rest) =>
    match d with
    | .postgresql =>
      let unit := (rest.head?.map fun u => (unitWord u).render d).getD ""
      atMost 3 es
        (ofParts kind (some e) [.value e, .text (" " ++ symbol ++ " "),
          .value (Interval.of d (shiftAmount amount) unit)])
    | .mysql =>
      match amount.bare with
      | .interval (some i) unit =>
        let unit := if unit == "" then "DAY" else unit
        atMost 3 es (named kind name (some e) [e, Interval.of d i unit])
      | _ => .error (.expectedInterval (amount.render .postgresql))
    | .sqlite =>
      if kind == "dateadd" then
        atMost 3 es (ofParts kind (some e)
          [.text "DATE(", .value e, .text ", ", quotedAmount d amount rest.head?, .text ")"])
      else atMost 3 es (named kind name (some e) (e :: amount :: rest.map unitWord))
  | es => .ok (named kind name es[0]? es)

/-- The argument of a function that makes a date of a time. -/
def withoutDate (e : Expr) : Expr :=
  match e.bare with
  | .known "tsordstodate" _ (.text _ :: .value a :: _) => a
  | _ => e

/-- What a count of days is multiplied by for another unit. -/
def dayFactors : List (String × String) := [
  ("MONTH", " / 30.0"), ("YEAR", " / 365.0"), ("HOUR", " * 24.0"), ("MINUTE", " * 1440.0"),
  ("SECOND", " * 86400.0"), ("MILLISECOND", " * 86400000.0"),
  ("MICROSECOND", " * 86400000000.0"), ("NANOSECOND", " * 8640000000000.0")]

/-- What a count of seconds is multiplied by for another unit. -/
def secondFactors : List (String × String) := [
  ("MICROSECOND", " * 1000000"), ("MILLISECOND", " * 1000"), ("SECOND", ""), ("MINUTE", " / 60"),
  ("HOUR", " / 3600"), ("DAY", " / 86400")]

/-- The span between two times, in PostgreSQL. -/
def span (unit stop start : String) : String :=
  let stop := "CAST(" ++ stop ++ " AS TIMESTAMP)"
  let start := "CAST(" ++ start ++ " AS TIMESTAMP)"
  let age := "AGE(" ++ stop ++ ", " ++ start ++ ")"
  match secondFactors.lookup unit with
  | some factor => "CAST(EXTRACT(epoch FROM " ++ stop ++ " - " ++ start ++ ")" ++ factor ++ " AS BIGINT)"
  | none =>
    let counted := match unit with
      | "WEEK" => "EXTRACT(days FROM (" ++ stop ++ " - " ++ start ++ ")) / 7"
      | "MONTH" => "EXTRACT(year FROM " ++ age ++ ") * 12 + EXTRACT(month FROM " ++ age ++ ")"
      | "QUARTER" => "EXTRACT(year FROM " ++ age ++ ") * 4 + EXTRACT(month FROM " ++ age ++ ") / 3"
      | "YEAR" => "EXTRACT(year FROM " ++ age ++ ")"
      | _ => age
    "CAST(" ++ counted ++ " AS BIGINT)"

/-- The difference of two dates. -/
def dateDifference (d : Dialect) : Builder
  | es@(stop :: start :: rest) =>
    let unit := (rest.head?.map fun u => (unitWord u).plainName).getD ""
    atMost 3 es (match d with
      | .mysql => named "datediff" "DATEDIFF" (some stop) [withoutDate stop, withoutDate start]
      | .postgresql =>
        ofParts "datediff" (some stop) [.text (span unit (stop.render d) (start.render d))]
      | .sqlite =>
        ofParts "datediff" (some stop)
          [.text "CAST((JULIANDAY(", .value stop, .text ") - JULIANDAY(", .value start,
            .text ("))" ++ (dayFactors.lookup unit).getD "" ++ " AS INTEGER)")])
  | es => .ok (named "datediff" "DATEDIFF" es[0]? es)

/-- The difference of two times in a unit, which MySQL names first. -/
def timeDifference : Builder
  | [unit, start, stop] => .ok (named "timestampdiff" "TIMESTAMPDIFF" (some stop) [unitWord unit, start, stop])
  | es => atMost 3 es (named "timestampdiff" "TIMESTAMPDIFF" es[0]? es)

/-- A format of times in the codes of the dialect. -/
def format (d : Dialect) (e : Expr) : Expr :=
  match e.bare with
  | .text s => .text (TimeFormat.write d (TimeFormat.read d s))
  | _ => e

/-- A function of a value and a format of times. -/
def formatted (d : Dialect) (kind name : String) : Builder := fun es =>
  atMost 4 es (named kind name es[0]? (es.take 1 ++ ((es.drop 1).take 1).map (format d)))

/-- Codes for times of day, as opposed to dates. -/
def hasTimeCode : List Char → Bool
  | '%' :: c :: cs => "fHhIiklprSsT".toList.contains c || hasTimeCode cs
  | _ :: cs => hasTimeCode cs
  | [] => false

/-- A text read as a date, or as a time if its format has a code for one. -/
def readTime (d : Dialect) : Builder := fun es =>
  let codes := ((es[1]?).map (·.plainName.toList)).getD []
  formatted d (if hasTimeCode codes then "strtotime" else "strtodate") "STR_TO_DATE" es

/-- The step of a series of times is an amount of time. -/
def series (d : Dialect) : Builder := fun es =>
  let step (e : Expr) : Expr :=
    match e.bare with
    | .text s => Interval.ofText d s
    | .interval (some i) "" => Interval.ofText d i.plainName
    | _ => e
  let written := match es with
    | a :: b :: s :: rest => a :: b :: step s :: rest
    | es => es
  atMost 4 es (named "explodinggenerateseries" "GENERATE_SERIES" none written)

/-- The functions of PostgreSQL. -/
def postgresqlTime? (name : String) : Option Builder :=
  let d := Dialect.postgresql
  match name with
  | "NOW" => some (current d "CURRENT_TIMESTAMP")
  | "TO_CHAR" => some (formatted d "timetostr" "TO_CHAR")
  | "TO_DATE" => some (formatted d "strtodate" "TO_DATE")
  | "TO_TIMESTAMP" =>
    some fun es => if es.length == 1 then .ok (named "unixtotime" "TO_TIMESTAMP" es[0]? es)
      else formatted d "strtotime" "TO_TIMESTAMP" es
  | "MAKE_TIME" => some fun es => atMost 5 es (named "timefromparts" "MAKE_TIME" none es)
  | "MAKE_TIMESTAMP" =>
    some fun es => atMost 8 es (named "timestampfromparts" "MAKE_TIMESTAMP" none es)
  | "GENERATE_SERIES" => some (series d)
  | _ => none

/-- A function of one time in MySQL. -/
def ofTime (kind name : String) : Builder := fun es => atMost 1 es (named kind name es[0]? es)

/-- The functions of MySQL. -/
def mysqlTime? (name : String) : Option Builder :=
  let d := Dialect.mysql
  match name with
  | "CURDATE" => some (current d "CURRENT_DATE")
  | "DATE" => some fun es => atMost 3 es (named "tsordstodate" "DATE" es[0]? (es.take 1))
  | "DAYOFMONTH" => some (ofTime "dayofmonth" "DAYOFMONTH")
  | "DAYOFWEEK" => some (ofTime "dayofweek" "DAYOFWEEK")
  | "DAYOFYEAR" => some (ofTime "dayofyear" "DAYOFYEAR")
  | "WEEKOFYEAR" => some (ofTime "weekofyear" "WEEKOFYEAR")
  | "DATE_FORMAT" =>
    some fun es => match es with
      | e :: rest => formatted d "timetostr" "DATE_FORMAT" (withoutDate e :: rest)
      | [] => formatted d "timetostr" "DATE_FORMAT" []
  | "STR_TO_DATE" => some (readTime d)
  | "FROM_UNIXTIME" => some (formatted d "unixtotime" "FROM_UNIXTIME")
  | "MONTHNAME" =>
    some fun es => atMost 4 es (named "timetostr" "DATE_FORMAT" es[0]? (es.take 1 ++ [.text "%M"]))
  | "TO_DAYS" =>
    some fun es =>
      let days := named "datediff" "DATEDIFF" es[0]? (es.take 1 ++ [.text "0000-01-01"])
      .ok (.paren (.binary Operator.add [] days (.number "1")))
  | "TIMESTAMPDIFF" => some timeDifference
  | "CONVERT_TZ" => some fun es => atMost 4 es (named "converttimezone" "CONVERT_TZ" none es)
  | "MAKETIME" => some fun es => atMost 5 es (named "timefromparts" "MAKETIME" none es)
  | "ISNULL" => some fun es => match es with
    | e :: _ => .ok (.paren (.binary Operator.is [] e .null))
    | [] => .ok .null
  | "SCHEMA" => some fun es => atMost 1 es (named "currentschema" "SCHEMA" es[0]? [])
  | "DATABASE" => some fun es => atMost 1 es (named "currentschema" "SCHEMA" es[0]? [])
  | _ => none

/-- The functions of SQLite. -/
def sqliteTime? (name : String) : Option Builder :=
  match name with
  | "STRFTIME" =>
    some fun es => match es with
      | [f] => .ok (named "timetostr" "STRFTIME" none [f, bare "currenttimestamp" "CURRENT_TIMESTAMP"])
      | [f, e] => .ok (named "timetostr" "STRFTIME" (some e) [f, e])
      | es => .ok (.call ⟨"STRFTIME", false, []⟩ es)
  | "DATETIME" => some fun es => .ok (.call ⟨"DATETIME", false, []⟩ es)
  | "TIME" => some fun es => .ok (.call ⟨"TIME", false, []⟩ es)
  | _ => none

def timeFunction? (d : Dialect) (name : String) : Option Builder :=
  let own := match d with
    | .postgresql => postgresqlTime? name
    | .mysql => mysqlTime? name
    | .sqlite => sqliteTime? name
  match own with
  | some b => some b
  | none =>
    if currentNames.contains name then some (current d name)
    else match name with
      | "DATE_TRUNC" => some (truncation d)
      | "LAST_DAY" => some (lastDay d)
      | "LAST_DAY_OF_MONTH" => some (lastDay d)
      | "DATE_ADD" => some (shift d "dateadd" "DATE_ADD" "+")
      | "DATE_SUB" => some (shift d "datesub" "DATE_SUB" "-")
      | "DATEDIFF" => some (dateDifference d)
      | "DATE_DIFF" => some (dateDifference d)
      | _ => none

end SchemaDesk.Sql.Function
