/-!
# Dates and moments

The proleptic Gregorian calendar from year 1 on.  A moment is a date and a time of day, to the
microsecond, with an offset from universal time or without one; moments with offsets are compared
as instants, the others field by field.
-/

namespace MockScaffold

/-- A day of the calendar. -/
structure Date where
  year : Nat
  month : Nat
  day : Nat
  deriving DecidableEq, Repr

/-- A time of a day; `offset` is the lead over universal time in minutes. -/
structure Moment where
  date : Date
  hour : Nat
  minute : Nat
  second : Nat
  microsecond : Nat
  offset : Option Int
  deriving DecidableEq, Repr

namespace Date

def isLeap (year : Nat) : Bool := year % 4 == 0 && (year % 100 != 0 || year % 400 == 0)

/-- The number of days of a month. -/
def daysIn (year month : Nat) : Nat :=
  match month with
  | 2 => if isLeap year then 29 else 28
  | 4 | 6 | 9 | 11 => 30
  | _ => 31

/-- The number of days from 1 January of year 1. -/
def ordinal (d : Date) : Nat :=
  let y := d.year - 1
  let months := (List.range (d.month - 1)).foldl (fun days m => days + daysIn d.year (m + 1)) 0
  365 * y + y / 4 - y / 100 + y / 400 + months + (d.day - 1)

end Date

/-- A number with at least `width` digits. -/
def padded (width n : Nat) : String :=
  let s := toString n
  String.ofList (List.replicate (width - s.length) '0') ++ s

/-- Year, month and day, joined by hyphens. -/
def Date.text (d : Date) : String :=
  s!"{padded 4 d.year}-{padded 2 d.month}-{padded 2 d.day}"

namespace Moment

/-- Microseconds from the start of year 1 in universal time, for a moment with this offset. -/
def instant (m : Moment) (offset : Int) : Int :=
  let minutes : Int := (m.date.ordinal * 24 + m.hour : Nat) * 60 + m.minute - offset
  (minutes * 60 + m.second) * 1000000 + m.microsecond

/-- Whether two moments are the same time. -/
def same (m n : Moment) : Bool :=
  match m.offset, n.offset with
  | some a, some b => m.instant a == n.instant b
  | none, none => m == n
  | _, _ => false

/-- An offset as a sign, hours and minutes. -/
def offsetText (offset : Int) : String :=
  let n := offset.natAbs
  (if offset < 0 then "-" else "+") ++ s!"{padded 2 (n / 60)}:{padded 2 (n % 60)}"

/-- Date and time, with microseconds and offset only where there are any. -/
def text (m : Moment) : String :=
  let fraction := if m.microsecond = 0 then "" else "." ++ padded 6 m.microsecond
  let offset := (m.offset.map offsetText).getD ""
  s!"{m.date.text} {padded 2 m.hour}:{padded 2 m.minute}:{padded 2 m.second}{fraction}{offset}"

end Moment

/-- A span of minutes as whole days and the seconds past them. -/
def spanText (minutes : Int) : String :=
  let days := minutes.fdiv 1440
  let seconds := (minutes.fmod 1440) * 60
  let parts :=
    (if days = 0 then [] else [s!"days={days}"]) ++
    (if seconds = 0 then [] else [s!"seconds={seconds}"])
  "datetime.timedelta(" ++ (if parts.isEmpty then "0" else ", ".intercalate parts) ++ ")"

/-- A date spelled out as a member of a set. -/
def Date.spelled (d : Date) : String := s!"datetime.date({d.year}, {d.month}, {d.day})"

/-- A moment spelled out as a member of a set; seconds and microseconds only where there are
any. -/
def Moment.spelled (m : Moment) : String :=
  let fields := [m.date.year, m.date.month, m.date.day, m.hour, m.minute]
  let seconds :=
    if m.microsecond ≠ 0 then [m.second, m.microsecond]
    else if m.second ≠ 0 then [m.second] else []
  let zone :=
    match m.offset with
    | none => []
    | some 0 => ["tzinfo=datetime.timezone.utc"]
    | some minutes => [s!"tzinfo=datetime.timezone({spanText minutes})"]
  "datetime.datetime(" ++ ", ".intercalate ((fields ++ seconds).map toString ++ zone) ++ ")"

end MockScaffold
