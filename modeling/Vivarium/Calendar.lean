/-!
# Days and moments

A date is a day of the calendar from the year 1 on. A moment is a time on a date, to the millionth
of a second; it may say how far its clock is ahead of universal time, and such moments are the same
when they are at one point of universal time.
-/

namespace Vivarium

/-! ## Dates -/

structure Date where
  year : Nat
  month : Nat
  day : Nat
deriving DecidableEq, Repr

/-- A part of a date or of a time that is not in its range. -/
inductive CalendarFault where
  | year (n : Nat)
  | month
  | day
  | hour
  | minute
  | second
  /-- A clock that is a day or more, given in minutes, ahead of universal time or behind it. -/
  | offset (minutes : Int)
deriving DecidableEq, Repr

/-- The digits of a number, padded with zeros to a width. -/
def padded (width n : Nat) : String :=
  let digits := Nat.toDigits 10 n
  String.ofList (List.replicate (width - digits.length) '0' ++ digits)

namespace Date

def isLeap (year : Nat) : Bool := year % 4 == 0 && (year % 100 != 0 || year % 400 == 0)

def daysIn (year month : Nat) : Nat :=
  if month = 2 then if isLeap year then 29 else 28
  else if month ∈ [4, 6, 9, 11] then 30
  else 31

/-- The date of a year, a month and a day, looked at in this order. -/
def make (year month day : Nat) : Except CalendarFault Date :=
  if year = 0 then .error (.year year)
  else if month = 0 ∨ 12 < month then .error .month
  else if day = 0 ∨ daysIn year month < day then .error .day
  else .ok ⟨year, month, day⟩

def ordinal (d : Date) : Nat :=
  let past := d.year - 1
  let months := (List.range (d.month - 1)).map fun m => daysIn d.year (m + 1)
  365 * past + past / 4 - past / 100 + past / 400 + months.foldr (· + ·) 0 + (d.day - 1)

def text (d : Date) : String := padded 4 d.year ++ "-" ++ padded 2 d.month ++ "-" ++ padded 2 d.day

def shown (d : Date) : String := s!"datetime.date({d.year}, {d.month}, {d.day})"

end Date

/-! ## Moments -/

/-- A time on a date, with the minutes that its clock is ahead of universal time, if it says so. -/
structure Moment where
  date : Date
  hour : Nat
  minute : Nat
  second : Nat
  millionths : Nat
  offset : Option Int
deriving DecidableEq, Repr

namespace Moment

def dayMinutes : Nat := 24 * 60

/-- How far a clock may be ahead of universal time or behind it: less than a day. -/
def checkOffset (minutes : Int) : Except CalendarFault Unit :=
  if minutes.natAbs < dayMinutes then .ok () else .error (.offset minutes)

/-- The moment of a time on a date, its parts looked at from the greatest on. -/
def make (date : Date) (hour minute second millionths : Nat) (offset : Option Int) :
    Except CalendarFault Moment :=
  if 23 < hour then .error .hour
  else if 59 < minute then .error .minute
  else if 59 < second then .error .second
  else .ok ⟨date, hour, minute, second, millionths, offset⟩

/-- The seconds from the first day of the calendar on, by the clock or in universal time. -/
def seconds (m : Moment) : Int :=
  let minutes : Int := m.date.ordinal * dayMinutes + m.hour * 60 + m.minute
  60 * (minutes - m.offset.getD 0) + m.second

/-- Whether two moments are at one point of time. One with an offset is never one without. -/
def same (m n : Moment) : Bool :=
  m.offset.isSome == n.offset.isSome && m.seconds == n.seconds && m.millionths == n.millionths

def offsetText (minutes : Int) : String :=
  let sign := if minutes < 0 then "-" else "+"
  sign ++ padded 2 (minutes.natAbs / 60) ++ ":" ++ padded 2 (minutes.natAbs % 60)

def text (m : Moment) : String :=
  let time := padded 2 m.hour ++ ":" ++ padded 2 m.minute ++ ":" ++ padded 2 m.second
  let fraction := if m.millionths = 0 then "" else "." ++ padded 6 m.millionths
  m.date.text ++ " " ++ time ++ fraction ++ (m.offset.map offsetText).getD ""

/-- A number of minutes as a span of whole days and of seconds after them, without what is zero. -/
def spanShown (minutes : Int) : String :=
  let days := minutes.fdiv dayMinutes
  let seconds := 60 * minutes.fmod dayMinutes
  let parts :=
    (if days = 0 then [] else [s!"days={days}"]) ++
      (if seconds = 0 then [] else [s!"seconds={seconds}"])
  "datetime.timedelta(" ++ (if parts.isEmpty then "0" else ", ".intercalate parts) ++ ")"

/-- An offset as it is shown inside a collection. -/
def offsetShown (minutes : Int) : String :=
  if minutes = 0 then "datetime.timezone.utc"
  else "datetime.timezone(" ++ spanShown minutes ++ ")"

/-- A moment as it is shown inside a collection: seconds and millionths only as far as needed. -/
def shown (m : Moment) : String :=
  let whole := [m.date.year, m.date.month, m.date.day, m.hour, m.minute]
  let parts :=
    if m.millionths ≠ 0 then whole ++ [m.second, m.millionths]
    else if m.second ≠ 0 then whole ++ [m.second]
    else whole
  let zone := (m.offset.map fun minutes => ", tzinfo=" ++ offsetShown minutes).getD ""
  "datetime.datetime(" ++ ", ".intercalate (parts.map toString) ++ zone ++ ")"

end Moment

/-! ## Faults -/

/-- The text of a fault of a date or a time. -/
def CalendarFault.message : CalendarFault → String
  | year n => s!"year {n} is out of range"
  | month => "month must be in 1..12"
  | day => "day is out of range for month"
  | hour => "hour must be in 0..23"
  | minute => "minute must be in 0..59"
  | second => "second must be in 0..59"
  | offset minutes =>
    "offset must be a timedelta strictly between " ++
      "-timedelta(hours=24) and timedelta(hours=24), not " ++
      Moment.spanShown minutes ++ "."

end Vivarium
