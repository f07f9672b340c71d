import ViewCases.Text.Basic

/-! Dates and times of the Gregorian calendar. -/
namespace ViewCases.Config
open Text

structure Date where
  year : Nat
  month : Nat
  day : Nat
  deriving DecidableEq, Repr

structure Clock where
  hour : Nat
  minute : Nat
  second : Nat
  microsecond : Nat
  deriving DecidableEq, Repr

/-- A day, or a time on a day. The `offset` from universal time is in seconds. -/
inductive Moment
  | day (date : Date)
  | time (date : Date) (clock : Clock) (offset : Option Int)
  deriving DecidableEq, Repr

namespace Date

def isLeap (year : Nat) : Bool :=
  year % 4 = 0 && (year % 100 ≠ 0 || year % 400 = 0)

def monthLength (year month : Nat) : Nat :=
  if month = 2 then (if isLeap year then 29 else 28)
  else if [4, 6, 9, 11].contains month then 30 else 31

/-- The number of days before the date, from the beginning of year one on. -/
def daysBefore (d : Date) : Nat :=
  let y := d.year - 1
  let months := (List.range (d.month - 1)).map fun m => monthLength d.year (m + 1)
  y * 365 + y / 4 - y / 100 + y / 400 + months.foldl (· + ·) 0 + (d.day - 1)

/-- Why there is no such date, if there is none. -/
def fault? (d : Date) : Option Text :=
  if d.year = 0 then some "year 0 is out of range"
  else if d.month = 0 ∨ 12 < d.month then some "month must be in 1..12"
  else if d.day = 0 ∨ monthLength d.year d.month < d.day then some "day is out of range for month"
  else none

end Date

def Clock.fault? (c : Clock) : Option Text :=
  if 23 < c.hour then some "hour must be in 0..23"
  else if 59 < c.minute then some "minute must be in 0..59"
  else if 59 < c.second then some "second must be in 0..59"
  else none

namespace Moment

def secondsPerDay : Int := 86400

/-- The written form of a span of seconds: whole days, which may be negative, and the
seconds of the day left over. -/
def spanText (seconds : Int) : Text :=
  let days := seconds.fdiv secondsPerDay
  let rest := seconds.fmod secondsPerDay
  let part (name : Text) (n : Int) : List Text :=
    if n = 0 then [] else [name ++ "=" ++ integer n]
  let parts := part "days" days ++ part "seconds" rest
  "datetime.timedelta(" ++ (if parts.isEmpty then ['0'] else joinWith ", " parts) ++ ")"

/-- Why there is no such offset, if there is none: it must be shorter than a day. -/
def offsetFault? (offset : Int) : Option Text :=
  if -secondsPerDay < offset ∧ offset < secondsPerDay then none
  else some ("offset must be a timedelta strictly between -timedelta(hours=24) and " ++
    "timedelta(hours=24), not " ++ spanText offset ++ ".")

/-- Why there is no such moment, if there is none. The offset is looked at first. -/
def fault? : Moment → Option Text
  | .day d => d.fault?
  | .time d c offset => ((offset.bind offsetFault?).or d.fault?).or c.fault?

def offsetText : Option Int → List Text
  | none => []
  | some 0 => ["tzinfo=datetime.timezone.utc"]
  | some n => ["tzinfo=datetime.timezone(" ++ spanText n ++ ")"]

/-- The written form. Seconds and their parts are left out where they are zero. -/
def text : Moment → Text
  | .day d => "datetime.date(" ++ joinWith ", " ([d.year, d.month, d.day].map decimal) ++ ")"
  | .time d c offset =>
    let fine : List Nat :=
      if c.microsecond ≠ 0 then [c.second, c.microsecond]
      else if c.second ≠ 0 then [c.second] else []
    "datetime.datetime(" ++ joinWith ", "
      (([d.year, d.month, d.day, c.hour, c.minute] ++ fine).map decimal ++ offsetText offset) ++ ")"

/-- The microseconds of universal time up to a time with an offset. -/
def universal (d : Date) (c : Clock) (offset : Int) : Int :=
  let seconds : Int := (d.daysBefore * 24 + c.hour) * 3600 + c.minute * 60 + c.second
  (seconds - offset) * 1000000 + c.microsecond

/-- Whether two moments are the same. Times with an offset are compared in universal
time; a time without one equals none that has one. -/
def same (a b : Moment) : Bool :=
  match a, b with
  | .time d c (some o), .time d' c' (some o') => universal d c o = universal d' c' o'
  | a, b => a = b

end Moment
end ViewCases.Config
