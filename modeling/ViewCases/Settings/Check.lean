import ViewCases.Config.Value
import ViewCases.Settings.Basic
import ViewCases.Text.Blank
import ViewCases.Text.Utf8

/-! Settings out of configuration values. A value of another type is taken where it
says the same: `1` for true, the text `4` or the real number `4.0` for the integer.
All faulty settings are reported together. -/
namespace ViewCases
open Text Config

inductive Complaint
  | notText
  | notUtf8
  | notBool
  | unreadableBool
  | notInt
  | unreadableInt
  | fractional
  | notFinite
  | outOfRange
  | belowMinimum
  | notMap
  deriving DecidableEq, Repr

/-- A faulty value: the keys that lead to it, and what is wrong with it. -/
structure Problem where
  place : List Text
  complaint : Complaint
  deriving DecidableEq, Repr

namespace Config.Value

def textOfBytes? (bs : List UInt8) : Option Text :=
  (Utf8.decode bs).toOption

def asText : Value → Except Complaint Text
  | .text t => .ok t
  | .broken _ => .error .notUtf8
  | .bytes bs => (textOfBytes? bs).elim (.error .notUtf8) .ok
  | _ => .error .notText

def trueWords : List Text := ["true", "t", "yes", "y", "on", "1"]

def falseWords : List Text := ["false", "f", "no", "n", "off", "0"]

/-- The truth value that a text names, without regard to case. Blanks count. -/
def boolOfText (t : Text) : Except Complaint Bool :=
  let word := t.map Char.toLower
  if trueWords.contains word then .ok true
  else if falseWords.contains word then .ok false
  else .error .unreadableBool

def boolOfInt (n : Int) : Except Complaint Bool :=
  if n = 0 then .ok false
  else if n = 1 then .ok true
  else .error .unreadableBool

def wordBound : Int := Int.ofNat (Nat.pow 2 63)

def fitsWord (n : Int) : Bool :=
  -wordBound ≤ n && n < wordBound

/-- The integer that a real number is, if a word of 64 bits holds it. The least one of
such a word does not count. -/
def wordOfNumber (r : Number) : Except Complaint Int :=
  match r with
  | .finite .. =>
    match r.integer? with
    | some n => if -wordBound < n && n < wordBound then .ok n else .error .outOfRange
    | none => .error .fractional
  | _ => .error .notFinite

def asBool : Value → Except Complaint Bool
  | .bool b => .ok b
  | .text t => boolOfText t
  | .broken _ => .error .notUtf8
  | .bytes bs => (textOfBytes? bs).elim (.error .unreadableBool) boolOfText
  | .int n => if fitsWord n then boolOfInt n else .error .notBool
  | .real r =>
    match wordOfNumber r with
    | .ok n => boolOfInt n
    | .error _ => .error .notBool
  | _ => .error .notBool

/-- White space around a number; the information separators are none. -/
def isPadding (c : Char) : Bool :=
  isBlank c && !(28 ≤ c.toNat && c.toNat ≤ 31)

def trimPadding (t : Text) : Text :=
  ((t.dropWhile isPadding).reverse.dropWhile isPadding).reverse

/-- The text from its first digit on that is no zero. Low lines may stand among the
zeros, and a minus sign may stand behind them. One zero stays before a point, and the
last character stays if nothing else does. -/
def dropZeros : Text → Option Text
  | '0' :: rest =>
    match rest.dropWhile fun c => c == '0' || c == '_' with
    | [] => some [rest.getLast?.getD '0']
    | c :: behind =>
      if ('1' ≤ c ∧ c ≤ '9') ∨ c = '-' then some (c :: behind)
      else if c = '.' then
        some ((rest.takeWhile fun c => c == '0' || c == '_').getLast?.getD '0' :: c :: behind)
      else none
  | c :: rest => if ('1' ≤ c ∧ c ≤ '9') ∨ c = '-' then some (c :: rest) else none
  | [] => none

/-- The text without a point that only zeros follow. -/
def dropPlaces (t : Text) : Text :=
  match t.dropWhile (· ≠ '.') with
  | _ :: '0' :: places => if places.all (· = '0') then t.takeWhile (· ≠ '.') else t
  | _ => t

/-- The text without low lines, if each stands between two other characters. -/
def dropGaps (t : Text) : Option Text :=
  let groups := splitBy (· = '_') t
  if groups.any (·.isEmpty) then none else some groups.flatten

/-- A number without padding, plus sign, leading zeros, empty places and low lines. -/
def cleaned (t : Text) : Option Text :=
  match trimPadding t with
  | '+' :: rest => if rest.head? = some '-' then none else strip rest
  | '-' :: rest => (strip rest).map ('-' :: ·)
  | t => strip t
where
  strip (t : Text) : Option Text := do dropGaps (dropPlaces (← dropZeros t))

/-- The integer that digits with or without a minus sign write, without leading zeros.
The sign counts as a digit where they are too many. -/
def intOfDigits (t : Text) : Except Complaint Int :=
  let body := if t.head? = some '-' then t.drop 1 else t
  let digits := body.takeWhile isAsciiDigit
  let rest := body.drop digits.length
  if body.head? = some '0' then
    if body.length = 1 then .ok 0 else .error .unreadableInt
  else if mostDigits < t.length - rest.length then .error .outOfRange
  else if digits.isEmpty || !rest.isEmpty then .error .unreadableInt
  else
    let n : Nat := digits.foldl (fun n c => 10 * n + (c.toNat - 48)) 0
    .ok (if t.head? = some '-' then -(n : Int) else n)

def intOfText (t : Text) : Except Complaint Int :=
  match intOfDigits t with
  | .error .unreadableInt => (cleaned t).elim (.error .unreadableInt) intOfDigits
  | found => found

def asInt : Value → Except Complaint Int
  | .int n => .ok n
  | .bool b => .ok (if b then 1 else 0)
  | .text t => intOfText t
  | .broken _ => .error .notUtf8
  | .bytes bs => (textOfBytes? bs).elim (.error .unreadableInt) intOfText
  | .real r => wordOfNumber r
  | _ => .error .notInt

end Config.Value

namespace Config.Value

def asPositive (v : Value) : Except Complaint Positive := do
  let n ← v.asInt
  if h : 1 ≤ n then .ok ⟨n.toNat, by omega⟩ else .error .belowMinimum

end Config.Value

/-- A value that was checked, or everything that is wrong with it. -/
abbrev Checked (α : Type) := Except (List Problem) α

namespace Checked

/-- Joins two checks; the problems of the first come first. -/
def both (f : Checked (α → β)) (x : Checked α) : Checked β :=
  match f, x with
  | .ok f, .ok a => .ok (f a)
  | .error p, .ok _ => .error p
  | .ok _, .error q => .error q
  | .error p, .error q => .error (p ++ q)

def ofComplaint (place : List Text) : Except Complaint α → Checked α
  | .ok a => .ok a
  | .error c => .error [⟨place, c⟩]

end Checked

namespace Settings
open Checked

/-- Names with one more in front; a name given later for the same category counts, at
the earlier place. -/
def addName (label name : Text) (names : List (Text × Text)) : List (Text × Text) :=
  (label, (names.lookup label).getD name) :: names.filter (·.1 ≠ label)

/-- The names given for single categories. A key that is no text is a problem of its
own. -/
def names (key : Text) : List (Value × Value) → Checked (List (Text × Text))
  | [] => .ok []
  | (k, v) :: rest =>
    let label := ofComplaint [key, k.keyText, "[key]"] k.asText
    let name := ofComplaint [key, k.keyText] v.asText
    both (both (both (.ok addName) label) name) (names key rest)

end Settings

namespace Setting
open Checked

/-- The content that a value stands for, or all that is wrong with it. -/
def ofValue (f : Setting) (v : Value) : Checked f.Content :=
  match f with
  | .outputDir | .logLevel | .fileExtension | .unionSuffix => ofComplaint [f.key] v.asText
  | .unionNames =>
    match v with
    | .map entries => Settings.names f.key entries
    | _ => .error [⟨[f.key], .notMap⟩]
  | .maxTypeDepth => ofComplaint [f.key] v.asPositive
  | .skipGenericModifiers | .deduplicateOverloads | .emitDefaultValues | .cleanOutput =>
    ofComplaint [f.key] v.asBool

/-- Checks the values given for settings, each on its own. -/
class Reader where
  read (f : Setting) : Value → Checked f.Content

instance : Reader := ⟨ofValue⟩

end Setting

namespace Settings
open Checked

/-- What a setting is to hold: what the value given for it stands for, or its default. -/
def check [Setting.Reader] (given : Setting → Option Value) (f : Setting) : Checked f.Content :=
  (given f).elim (.ok (({} : Settings).get f)) (Setting.Reader.read f)

/-- The settings with the values that are given; the others have their defaults. -/
def ofValues [Setting.Reader] (given : Setting → Option Value) : Checked Settings :=
  let texts := both (both (both (both (.ok build)
    (check given .outputDir)) (check given .logLevel)) (check given .fileExtension))
    (check given .unionSuffix)
  let flags := both (both (both (both texts (check given .unionNames))
    (check given .skipGenericModifiers)) (check given .deduplicateOverloads))
    (check given .emitDefaultValues)
  both (both flags (check given .maxTypeDepth)) (check given .cleanOutput)

def valueIn (entries : List (Text × Value)) (s : Setting) : Option Value :=
  entries.lookup s.key

end Settings
end ViewCases
