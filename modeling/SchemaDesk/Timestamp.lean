import SchemaDesk.Failure
/-!
Instants in the Gregorian calendar, extended to all years, and their text in universal time to the
millisecond.
-/

namespace SchemaDesk

/-- A local time and its distance from universal time. -/
structure DateTime where
  year : Int
  month : Int
  day : Int
  hour : Int
  minute : Int
  second : Int
  microsecond : Int
  offsetSeconds : Int := 0
  deriving DecidableEq, Repr

/-- A day of the calendar. -/
structure Day where
  year : Int
  month : Int
  day : Int
  deriving DecidableEq, Repr

namespace Day

/-- Days since the first of March of the year 0. Years are counted from March, so that a leap day is
the last day of its year. -/
def number (d : Day) : Int :=
  let y := if d.month ≤ 2 then d.year - 1 else d.year
  let m := if d.month ≤ 2 then d.month + 9 else d.month - 3
  365 * y + y / 4 - y / 100 + y / 400 + (153 * m + 2) / 5 + d.day - 1

/-- The day with that number. An era has 400 years and 146097 days. -/
def ofNumber (n : Int) : Day :=
  let era := n / 146097
  let dayOfEra := n % 146097
  let yearOfEra := (dayOfEra - dayOfEra / 1460 + dayOfEra / 36524 - dayOfEra / 146096) / 365
  let dayOfYear := dayOfEra - (365 * yearOfEra + yearOfEra / 4 - yearOfEra / 100)
  let m := (5 * dayOfYear + 2) / 153
  let month := if m < 10 then m + 3 else m - 9
  { year := era * 400 + yearOfEra + (if month ≤ 2 then 1 else 0)
    month := month
    day := dayOfYear - (153 * m + 2) / 5 + 1 }

end Day

namespace DateTime

def microsPerDay : Int := 86400000000

/-- Microseconds in universal time since the first of March of the year 0. -/
def instant (t : DateTime) : Int :=
  (Day.number ⟨t.year, t.month, t.day⟩ * 86400 + t.hour * 3600 + t.minute * 60 + t.second -
    t.offsetSeconds) * 1000000 + t.microsecond

/-- The instants of the years 1 to 9999. -/
def inRange (i : Int) : Bool :=
  Day.number ⟨1, 1, 1⟩ * microsPerDay ≤ i && i < Day.number ⟨10000, 1, 1⟩ * microsPerDay

/-- A number that is not negative, with zeros in front up to the given width. -/
def padded (width : Nat) (n : Int) : List Char :=
  let ds := Nat.toDigits 10 n.toNat
  List.replicate (width - ds.length) '0' ++ ds

/-- The text of an instant, parts of a millisecond cut off. -/
def instantText (i : Int) : String :=
  let day := Day.ofNumber (i / microsPerDay)
  let micros := i % microsPerDay
  String.ofList <|
    padded 4 day.year ++ '-' :: padded 2 day.month ++ '-' :: padded 2 day.day ++
      'T' :: padded 2 (micros / 3600000000) ++ ':' :: padded 2 (micros / 60000000 % 60) ++
      ':' :: padded 2 (micros / 1000000 % 60) ++ '.' :: padded 3 (micros / 1000 % 1000) ++ ['Z']

def text (t : DateTime) : Except Failure String :=
  if inRange t.instant then .ok (instantText t.instant) else .error .dateOutOfRange

end DateTime

/-- When a script was made: as a text that stands as it is, or as a time. -/
inductive Timestamp
  | text (s : String)
  | time (t : DateTime)

namespace Timestamp

def toText : Timestamp → Except Failure String
  | text s => .ok s
  | time t => t.text

end Timestamp

end SchemaDesk
