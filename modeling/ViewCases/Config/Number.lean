import ViewCases.Text.Basic

/-! Real numbers as 64 bits hold them. A finite one is a whole number of units, the unit
being the least positive number of the format, so that rounding is division of natural
numbers and equality of magnitudes is equality of units. -/
namespace ViewCases.Config

/-- A real number. Results that are no number are the same only if they have the same
`origin`; the constant has origin zero. -/
inductive Number
  | finite (negative : Bool) (units : Nat)
  | infinite (negative : Bool)
  | notANumber (origin : Nat)
  deriving DecidableEq, Repr

namespace Number

def unitsPerOne : Nat := Nat.pow 2 1074

/-- All finite numbers have less units. -/
def limit : Nat := Nat.pow 2 1024 * unitsPerOne

/-- How many binary digits of a number are kept. -/
def precision : Nat := 53

/-- The quotient rounded to the nearest whole number, in the middle to the even one. -/
def divRound (n d : Nat) : Nat :=
  let q := n / d
  let r := 2 * (n % d)
  if r < d ∨ (r = d ∧ q % 2 = 0) then q else q + 1

/-- The number of `n / d` units, rounded to the digits that are kept. -/
def ofUnits (negative : Bool) (n d : Nat) : Number :=
  let q := n / d
  let dropped := if q = 0 then 0 else q.log2 + 1 - precision
  let scale := Nat.pow 2 dropped
  let units := divRound n (d * scale) * scale
  if units < limit then .finite negative units else .infinite negative

/-- The number nearest to `mantissa` times ten to the `exponent`. Exponents far outside
the range are decided without computing the power. -/
def ofScientific (negative : Bool) (mantissa : Nat) (exponent : Int) : Number :=
  let size := Int.ofNat (Text.decimal mantissa).length + exponent
  if mantissa = 0 ∨ size < -400 then .finite negative 0
  else if 400 < size then .infinite negative
  else if 0 ≤ exponent then
    ofUnits negative (mantissa * Nat.pow 10 exponent.toNat * unitsPerOne) 1
  else ofUnits negative (mantissa * unitsPerOne) (Nat.pow 10 (-exponent).toNat)

def ofNat (n : Nat) : Number :=
  ofUnits false (n * unitsPerOne) 1

def zero : Number := .finite false 0

def neg : Number → Number
  | .finite negative units => .finite (!negative) units
  | .infinite negative => .infinite (!negative)
  | .notANumber origin => .notANumber origin

def signedUnits (negative : Bool) (units : Nat) : Int :=
  if negative then -(units : Int) else units

/-- The sum of two numbers; where there is none, a result of the given origin. A sum of
zero is negative only if both numbers are. -/
def add (origin : Nat) : Number → Number → Number
  | .finite s a, .finite t b =>
    let sum := signedUnits s a + signedUnits t b
    if sum = 0 then .finite (s && t) 0 else ofUnits (decide (sum < 0)) sum.natAbs 1
  | .notANumber _, _ | _, .notANumber _ => .notANumber origin
  | .infinite s, .infinite t => if s = t then .infinite s else .notANumber origin
  | .infinite s, .finite .. => .infinite s
  | .finite .., .infinite t => .infinite t

/-- The product with a positive number; one that is no number keeps its origin. -/
def scale : Number → Number → Number
  | .finite s a, .finite _ b => ofUnits s (a * b) unitsPerOne
  | .finite s _, _ => .infinite s
  | .infinite s, _ => .infinite s
  | .notANumber origin, _ => .notANumber origin

def integer? : Number → Option Int
  | .finite negative units =>
    if units % unitsPerOne = 0 then some (signedUnits negative (units / unitsPerOne)) else none
  | _ => none

/-- Whether two numbers are equal in value. Both zeros are. -/
def same (a b : Number) : Bool :=
  a = b || (a.integer? = some 0 && b.integer? = some 0)

def isZero (a : Number) : Bool :=
  a.integer? = some 0

end Number
end ViewCases.Config
