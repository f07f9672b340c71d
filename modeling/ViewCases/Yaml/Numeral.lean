import ViewCases.Config.Number
import ViewCases.Text.Casing
import ViewCases.Text.Digit
import ViewCases.Yaml.Fault

/-! The numbers that scalars write. Low lines in them count for nothing. Digits and
blanks of all scripts are accepted, and parts between colons count in sixties. -/
namespace ViewCases.Yaml.Numeral
open Text Config

def digit? (c : Char) : Option Nat :=
  if '0' ≤ c ∧ c ≤ '9' then some (c.toNat - 48)
  else if 'a' ≤ c ∧ c ≤ 'z' then some (c.toNat - 87)
  else if 'A' ≤ c ∧ c ≤ 'Z' then some (c.toNat - 55)
  else none

/-- The plain form of a number, up to its first character that has none. -/
def plain (t : Text) : Text :=
  if t.all (·.toNat < 128) then t
  else
    let t := t.map plainChar
    t.takeWhile (· ≠ '?') ++ (t.dropWhile (· ≠ '?')).take 1

/-- The number without the sign in front of it, and whether the sign is a minus. -/
def takeSign : Text → Bool × Text
  | '-' :: t => (true, t)
  | '+' :: t => (false, t)
  | t => (false, t)

def signed (negative : Bool) (n : Int) : Int :=
  if negative then -n else n

/-- The digits behind the mark of a base, if that is there. -/
def dropMark (base : Nat) : Text → Text
  | '0' :: c :: t =>
    let mark : Text := match base with
      | 2 => "bB"
      | 8 => "oO"
      | 16 => "xX"
      | _ => []
    if mark.contains c then t else '0' :: c :: t
  | t => t

/-- The integer that a text writes in a base; the mark of the base may stand in front. -/
def integer (base : Nat) (t : Text) : Except Fault Int := do
  let (negative, body) := takeSign ((plain t).dropWhile isAsciiBlank)
  let body := dropMark base body
  let digits := body.takeWhile fun c => (digit? c).any (· < base)
  if base = 10 ∧ Fault.mostDigits < digits.length then throw (.tooManyDigits digits.length)
  if digits.isEmpty || !(body.drop digits.length).all isAsciiBlank then
    throw (.notAnInteger base t)
  let n := digits.foldl (fun n c => n * base + (digit? c).getD 0) 0
  return signed negative n

/-- The value of parts in base sixty. -/
def sixties (parts : List Int) : Int :=
  parts.foldl (fun n part => n * 60 + part) 0

/-- The integer that a scalar writes. A leading zero means base eight. -/
def int (t : Text) : Except Fault Int := do
  let t := t.filter (· ≠ '_')
  let (negative, body) := takeSign t
  let n ← match body with
    | [] => throw .emptyNumber
    | ['0'] => pure 0
    | '0' :: 'b' :: digits => integer 2 digits
    | '0' :: 'x' :: digits => integer 16 digits
    | '0' :: _ => integer 8 body
    | _ =>
      if body.contains ':' then sixties <$> (splitBy (· = ':') body).mapM (integer 10)
      else integer 10 body
  return signed negative n

def exponent? (t : Text) : Option Int :=
  let (negative, digits) := takeSign t
  if digits.isEmpty || !digits.all isAsciiDigit then none
  else some (signed negative (digits.foldl (fun n c => n * 10 + (c.toNat - 48)) 0))

/-- The number that a decimal without sign writes, with or without point and exponent. -/
def decimal? (negative : Bool) (t : Text) : Option Number := do
  let front := t.takeWhile fun c => c != 'e' && c != 'E'
  let exponent ← match t.drop front.length with
    | [] => some 0
    | _ :: behind => exponent? behind
  let whole := front.takeWhile (· ≠ '.')
  let places := (front.drop whole.length).drop 1
  let digits := whole ++ places
  if digits.isEmpty || !digits.all isAsciiDigit then none
  let mantissa := digits.foldl (fun n c => n * 10 + (c.toNat - 48)) 0
  return .ofScientific negative mantissa (exponent - places.length)

/-- The real number that a text writes. A result that is no number has the origin. -/
def number (origin : Nat) (t : Text) : Except Fault Number :=
  let (negative, body) := takeSign (trimAscii (plain t))
  let word := body.map Char.toLower
  if word = "inf" ∨ word = "infinity" then .ok (.infinite negative)
  else if word = "nan" then .ok (.notANumber origin)
  else match decimal? negative body with
    | some n => .ok n
    | none => .error (.notANumber t)

/-- The powers of sixty from the zeroth on. -/
def power (n : Nat) : Except Fault Number :=
  match Number.ofNat (Nat.pow 60 n) with
  | .finite s units => .ok (.finite s units)
  | _ => .error .tooLarge

/-- The value of parts in base sixty, the last one first; `place` counts those before. -/
def realSixties (origin place : Nat) (sum : Number) : List Number → Except Fault Number
  | [] => .ok sum
  | part :: parts => do
    realSixties origin (place + 1) (sum.add origin (part.scale (← power place))) parts

/-- The real number that a scalar writes. Other results than the constant that are no
number have the origin. -/
def real (origin : Nat) (t : Text) : Except Fault Number := do
  let t := lower (t.filter (· ≠ '_'))
  if t.isEmpty then throw .emptyNumber
  let (negative, body) := takeSign t
  let n ←
    if body = ".inf" then pure (.infinite false)
    else if body = ".nan" then return .notANumber 0
    else if body.contains ':' then do
      let parts ← (splitBy (· = ':') body).mapM (number origin)
      realSixties origin 0 .zero parts.reverse
    else number origin body
  return if negative then n.neg else n

end ViewCases.Yaml.Numeral
