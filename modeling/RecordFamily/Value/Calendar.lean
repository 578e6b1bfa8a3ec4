import RecordFamily.Decimal.Shortest

/-!
# Dates and moments

The calendar values that a document may hold.

* `Date`, `Moment`: a day, and a time of day on it with an optional distance from universal time;
* `CalendarError`: what makes numbers no date or no time, with its message;
* `Date.of`, `Moment.of`: the checked constructors;
* `Date.text`, `Moment.text`: the written form;
* `Date.described`, `Moment.described`: the form inside the display of a collection;
* `Moment.sameInstant`: two moments are the same point in time.
-/

namespace RecordFamily

/-- A day of the calendar. -/
structure Date where
  year : Nat
  month : Nat
  day : Nat
  deriving DecidableEq, Repr

/-- A time of day on a date; `offset` is its distance from universal time in minutes. -/
structure Moment where
  date : Date
  hour : Nat
  minute : Nat
  second : Nat
  microsecond : Nat
  offset : Option Int
  deriving DecidableEq, Repr

/-- Why numbers are no date or no time of day. -/
inductive CalendarError where
  | year (n : Nat)
  | month
  | day
  | hour
  | minute
  | second
  | offset (minutes : Int)
  deriving DecidableEq, Repr

namespace Calendar

/-- The number `n` in at least `width` digits. -/
def padded (width n : Nat) : String :=
  let ds := Decimal.digits n
  String.ofList (List.replicate (width - ds.length) '0' ++ ds)

/-- The year has a 29 February. -/
def isLeap (year : Nat) : Bool := year % 4 == 0 && (year % 100 != 0 || year % 400 == 0)

/-- The length of a month. -/
def daysIn (year month : Nat) : Nat :=
  if month == 2 then (if isLeap year then 29 else 28)
  else if month == 4 || month == 6 || month == 9 || month == 11 then 30
  else 31

/-- Whole days and the seconds left over in a signed count of minutes. -/
def daysAndSeconds (minutes : Int) : Int × Int :=
  (minutes.fdiv 1440, minutes.fmod 1440 * 60)

/-- A signed count of minutes as a length of time, zero parts left out. -/
def duration (minutes : Int) : String :=
  let (days, seconds) := daysAndSeconds minutes
  let parts := (if days == 0 then [] else [s!"days={days}"])
    ++ (if seconds == 0 then [] else [s!"seconds={seconds}"])
  let inner := if parts.isEmpty then "0" else ", ".intercalate parts
  s!"datetime.timedelta({inner})"

end Calendar

open Calendar

/-- The text of the error. -/
def CalendarError.message : CalendarError → String
  | year n => s!"year {n} is out of range"
  | month => "month must be in 1..12"
  | day => "day is out of range for month"
  | hour => "hour must be in 0..23"
  | minute => "minute must be in 0..59"
  | second => "second must be in 0..59"
  | offset minutes =>
    "offset must be a timedelta strictly between -timedelta(hours=24) and timedelta(hours=24), not "
      ++ s!"{duration minutes}."

/-- The date with these numbers. -/
def Date.of (year month day : Nat) : Except CalendarError Date :=
  if year < 1 || 9999 < year then .error (.year year)
  else if month < 1 || 12 < month then .error .month
  else if day < 1 || daysIn year month < day then .error .day
  else .ok ⟨year, month, day⟩

/-- The moment with these numbers. -/
def Moment.of (year month day hour minute second microsecond : Nat) (offset : Option Int) :
    Except CalendarError Moment :=
  match offset.filter (fun m => m ≤ -1440 || 1440 ≤ m), Date.of year month day with
  | some m, _ => .error (.offset m)
  | none, .error e => .error e
  | none, .ok date =>
    if 23 < hour then .error .hour
    else if 59 < minute then .error .minute
    else if 59 < second then .error .second
    else .ok ⟨date, hour, minute, second, microsecond, offset⟩

/-- The date as year, month and day between dashes. -/
def Date.text (d : Date) : String :=
  s!"{padded 4 d.year}-{padded 2 d.month}-{padded 2 d.day}"

/-- The date and the time of day, with the fraction of a second and the offset when there are
any. -/
def Moment.text (m : Moment) : String :=
  let fraction := if m.microsecond == 0 then "" else s!".{padded 6 m.microsecond}"
  let zone := match m.offset with
    | none => ""
    | some o =>
      let sign := if o < 0 then "-" else "+"
      s!"{sign}{padded 2 (o.natAbs / 60)}:{padded 2 (o.natAbs % 60)}"
  s!"{m.date.text} {padded 2 m.hour}:{padded 2 m.minute}:{padded 2 m.second}{fraction}{zone}"

/-- The date inside the display of a collection. -/
def Date.described (d : Date) : String := s!"datetime.date({d.year}, {d.month}, {d.day})"

/-- The moment inside the display of a collection. -/
def Moment.described (m : Moment) : String :=
  let clock := if m.microsecond != 0 then s!", {m.second}, {m.microsecond}"
    else if m.second != 0 then s!", {m.second}" else ""
  let zone := match m.offset with
    | none => ""
    | some 0 => ", tzinfo=datetime.timezone.utc"
    | some o => s!", tzinfo=datetime.timezone({duration o})"
  s!"datetime.datetime({m.date.year}, {m.date.month}, {m.date.day}, {m.hour}, {m.minute}{clock}{zone})"

/-! ## Points in time -/

/-- The number of days before a day, counted from the first of the first year. -/
def Date.daysBefore (d : Date) : Nat :=
  let years := d.year - 1
  let months := (List.range (d.month - 1)).map fun m => daysIn d.year (m + 1)
  365 * years + years / 4 - years / 100 + years / 400 + months.foldl (· + ·) 0 + (d.day - 1)

/-- The minutes before the moment where its clock shows so much. -/
def Moment.minutesBefore (m : Moment) : Nat := 1440 * m.date.daysBefore + 60 * m.hour + m.minute

/-- The two moments are the same point in time; one with an offset and one without never are. -/
def Moment.sameInstant (a b : Moment) : Bool :=
  match a.offset, b.offset with
  | none, none => a == b
  | some x, some y =>
    (a.minutesBefore : Int) - x == (b.minutesBefore : Int) - y && a.second == b.second
      && a.microsecond == b.microsecond
  | _, _ => false

end RecordFamily
