import ViewCases.Config.Moment
import ViewCases.Config.NumberText
import ViewCases.Text.Quoted

/-! Values of a configuration, as a configuration file or a caller gives them. -/
namespace ViewCases.Config
open Text

/-- A value. Of lists and sets only the size is kept, since no setting takes one. -/
inductive Value
  | null
  | bool (b : Bool)
  | int (n : Int)
  | real (r : Number)
  | text (t : Text)
  /-- The numbers of characters of which some are only halves of pairs of surrogates. -/
  | broken (codes : List Nat)
  | bytes (bs : List UInt8)
  | moment (m : Moment)
  | list (size : Nat)
  | set (size : Nat)
  | map (entries : List (Value × Value))
  deriving Repr

namespace Value

/-- Whether the value counts as missing: null, false, zero and everything empty. -/
def isVoid : Value → Bool
  | .null | .bool false | .int 0 => true
  | .real r => r.isZero
  | .text t => t.isEmpty
  | .bytes bs => bs.isEmpty
  | .list size | .set size => size = 0
  | .map entries => entries.isEmpty
  | _ => false

/-- Whether the value is a text, be it a broken one. -/
def isText : Value → Bool
  | .text _ | .broken _ => true
  | _ => false

def integer? : Value → Option Int
  | .int n => some n
  | .bool b => some (if b then 1 else 0)
  | .real r => r.integer?
  | _ => none

/-- Whether two values that are no collections are one key. Numbers and truth values of
equal value are. -/
def sameKey (a b : Value) : Bool :=
  match a, b with
  | .null, .null => true
  | .text t, .text u => t = u
  | .broken s, .broken t => s = t
  | .bytes s, .bytes t => s = t
  | .moment m, .moment n => m.same n
  | .real r, .real s => r.same s
  | _, _ => a.integer?.isSome && a.integer? = b.integer?

/-- The entries with `value` under `key`; a key keeps the place where it came first. -/
def put (key : Value) (value : α) : List (Value × α) → List (Value × α)
  | [] => [(key, value)]
  | (k, v) :: rest => if sameKey k key then (k, value) :: rest else (k, v) :: put key value rest

def byteText (quote : Char) (b : UInt8) : Text :=
  if b < 128 && isPrintable (Char.ofNat b.toNat) then escapeChar quote (Char.ofNat b.toNat)
  else if [9, 10, 13].contains b then escapeChar quote (Char.ofNat b.toNat)
  else '\\' :: 'x' :: hex 2 b.toNat

/-- Bytes in quotes, with the quote that a text of the same characters would have. -/
def bytesText (bs : List UInt8) : Text :=
  let quote := quoteFor (bs.map fun b => Char.ofNat b.toNat)
  'b' :: quote :: bs.flatMap (byteText quote) ++ [quote]

/-- The greatest number of digits with which an integer is written and read. -/
def mostDigits : Nat := 4300

def intText (n : Int) : Text :=
  if Nat.pow 10 mostDigits ≤ n.natAbs then "<unprintable int object>" else integer n

/-- Whether a number is that of half of a pair of surrogates, which is no character. -/
def isHalf (code : Nat) : Bool :=
  0xD800 ≤ code && code < 0xE000

/-- A character, or the three marks that stand for half of a pair of surrogates. -/
def codeText (code : Nat) : Text :=
  if isHalf code then List.replicate 3 (Char.ofNat 0xFFFD) else [Char.ofNat code]

/-- How a key that is no text is written where an error names its place. -/
def keyText : Value → Text
  | .null => "None"
  | .bool b => if b then ['1'] else ['0']
  | .int n => intText n
  | .real r => r.text
  | .text t => t
  | .broken codes => codes.flatMap codeText
  | .bytes bs => bytesText bs
  | .moment m => m.text
  | .list _ => "[]"
  | .set _ => "set()"
  | .map _ => "\x7b\x7d"

end Value
end ViewCases.Config
