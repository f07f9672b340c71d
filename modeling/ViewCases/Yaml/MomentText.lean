import ViewCases.Config.Moment
import ViewCases.Yaml.Tag

/-! Dates and times out of the text of a scalar. A scalar that is tagged as one may have
months and days of one digit also where no time follows, and one newline at its end. -/
namespace ViewCases.Yaml.MomentText
open Config

def value (digits : Text) : Nat :=
  digits.foldl (fun n c => n * 10 + (c.toNat - 48)) 0

def number? (least most : Nat) (t : Text) : Option (Nat × Text) :=
  (Tag.takeDigits? least most t).map fun (digits, rest) => (value digits, rest)

def char? (c : Char) : Text → Option Text
  | [] => none
  | d :: rest => if d = c then some rest else none

def isGap (c : Char) : Bool := c == ' ' || c == '\t'

def date? (t : Text) : Option (Date × Text) := do
  let (year, t) ← number? 4 4 t
  let (month, t) ← number? 1 2 (← char? '-' t)
  let (day, t) ← number? 1 2 (← char? '-' t)
  return (⟨year, month, day⟩, t)

/-- The offset behind a sign, in seconds. -/
def offset? (t : Text) : Option Int := do
  let (hours, t) ← number? 1 2 t
  let minutes ← match t with
    | [] => some 0
    | ':' :: t =>
      match number? 2 2 t with
      | some (minutes, []) => some minutes
      | _ => none
    | _ => none
  return Int.ofNat (hours * 3600 + minutes * 60)

/-- The end of a time: an offset from universal time, with blanks before it, or
nothing. -/
def zone? (t : Text) : Option (Option Int) :=
  if t.isEmpty then some none
  else match t.dropWhile isGap with
    | ['Z'] => some (some 0)
    | '+' :: rest => (offset? rest).map some
    | '-' :: rest => (offset? rest).map fun n => some (-n)
    | _ => none

/-- The microseconds behind a point, of which the first six digits count. -/
def fraction (digits : Text) : Nat :=
  value ((digits ++ List.replicate 6 '0').take 6)

def clock? (t : Text) : Option (Clock × Option Int) := do
  let (hour, t) ← number? 1 2 t
  let (minute, t) ← number? 2 2 (← char? ':' t)
  let (second, t) ← number? 2 2 (← char? ':' t)
  let (digits, t) := match t with
    | '.' :: rest => (rest.takeWhile Tag.isDec, rest.dropWhile Tag.isDec)
    | t => ([], t)
  return (⟨hour, minute, second, fraction digits⟩, ← zone? t)

/-- The text behind the separator of date and time. -/
def behindDate? : Text → Option Text
  | 'T' :: rest | 't' :: rest => some rest
  | c :: rest => if isGap c then some (rest.dropWhile isGap) else none
  | [] => none

def ofLine? (t : Text) : Option Moment := do
  let (date, t) ← date? t
  if t.isEmpty then return .day date
  let (clock, offset) ← clock? (← behindDate? t)
  return .time date clock offset

/-- The moment that a text writes, which need not exist. -/
def read? (t : Text) : Option Moment :=
  ofLine? (if t.getLast? = some '\n' then t.dropLast else t)

end ViewCases.Yaml.MomentText
