import ViewCases.Config.Number

/-! The text of a real number: the fewest decimal digits that read back as the same
number. Two texts of equal length are told apart by their distance to the number, and
an exact tie goes to the even last digit. -/
namespace ViewCases.Config

structure DecimalLayout where
  /-- Positional notation ends where the point would stand behind more digits. -/
  mostWhole : Int
  /-- Positional notation ends where more zeros would stand behind the point. -/
  mostZeros : Int
  /-- An exponent has at least so many digits. -/
  exponentDigits : Nat

namespace Number

def layout : DecimalLayout := ⟨16, 3, 2⟩

/-- The least `e` from `low` on, within `n` steps, with `units < 10 ^ e` ones. -/
def leadingFrom (units : Nat) : Nat → Int → Int
  | 0, low => low
  | n + 1, low =>
    let below : Bool :=
      if 0 ≤ low then units < Nat.pow 10 low.toNat * unitsPerOne
      else units * Nat.pow 10 (-low).toNat < unitsPerOne
    if below then low else leadingFrom units n (low + 1)

/-- Where the point stands in the decimal text of a positive number: behind the first
digit if this is one. -/
def pointPlace (units : Nat) : Int :=
  leadingFrom units 650 (-330)

/-- The whole number of steps of size ten to the `e` in the units, and whether the
remainder is less than, equal to or more than half a step. -/
def stepsOf (units : Nat) (e : Int) : Nat × Ordering :=
  let n := if 0 ≤ e then units else units * Nat.pow 10 (-e).toNat
  let d := if 0 ≤ e then unitsPerOne * Nat.pow 10 e.toNat else unitsPerOne
  (n / d, compare (2 * (n % d)) d)

/-- The decimal of `count` digits that reads back as the number, if there is one. -/
def decimalOf? (units : Nat) (count : Nat) : Option (Nat × Int) :=
  let e := pointPlace units - count
  let (low, rest) := stepsOf units e
  let reads (d : Nat) : Bool := ofScientific false d e = .finite false units
  let upper : Bool := rest = .gt || (rest = .eq && low % 2 = 1)
  let first := if upper then low + 1 else low
  let second := if upper then low else low + 1
  if reads first then some (first, e) else if reads second then some (second, e) else none

/-- The shortest decimal of at least `count` digits that reads back, within `n` steps. -/
def shortestFrom (units : Nat) : Nat → Nat → Nat × Int
  | 0, count => (decimalOf? units count).getD (0, 0)
  | n + 1, count => (decimalOf? units count).getD (shortestFrom units n (count + 1))

/-- The digits of a positive number without zeros at the end, and the place of the
point: behind the first digit if this is one. -/
def digits (units : Nat) : Text × Int :=
  let (d, e) := shortestFrom units 16 1
  let written := Text.decimal d
  ((written.reverse.dropWhile (· = '0')).reverse, Int.ofNat written.length + e)

def zeros (n : Int) : Text :=
  List.replicate n.toNat '0'

def exponentText (l : DecimalLayout) (e : Int) : Text :=
  let written := Text.decimal e.natAbs
  (if e < 0 then ['e', '-'] else ['e', '+']) ++ zeros (l.exponentDigits - written.length) ++ written

/-- Digits with a point after the first `place` of them. -/
def placed (l : DecimalLayout) (ds : Text) (place : Int) : Text :=
  if -l.mostZeros ≤ place ∧ place ≤ l.mostWhole then
    if place ≤ 0 then ['0', '.'] ++ zeros (-place) ++ ds
    else
      let whole := ds.take place.toNat ++ zeros (place - ds.length)
      let places := ds.drop place.toNat
      whole ++ ['.'] ++ if places.isEmpty then ['0'] else places
  else
    let places := ds.drop 1
    ds.take 1 ++ (if places.isEmpty then [] else '.' :: places) ++ exponentText l (place - 1)

def text : Number → Text
  | .finite negative units =>
    let sign : Text := if negative then ['-'] else []
    if units = 0 then sign ++ ['0', '.', '0']
    else
      let (ds, place) := digits units
      sign ++ placed layout ds place
  | .infinite negative => if negative then "-inf" else "inf"
  | .notANumber _ => "nan"

end Number
end ViewCases.Config
