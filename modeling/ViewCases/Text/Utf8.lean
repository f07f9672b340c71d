import ViewCases.Text.Quoted

/-! UTF-8, written and read. Reading stops at the first fault and says where it
lies, or puts a replacement character in the place of each fault: the longest
well-formed beginning of a sequence is one fault. -/
namespace ViewCases.Utf8

def encodeChar (c : Char) : List UInt8 :=
  let n := c.toNat
  if n < 0x80 then [n.toUInt8]
  else if n < 0x800 then [(0xC0 + n / 0x40).toUInt8, (0x80 + n % 0x40).toUInt8]
  else if n < 0x10000 then
    [(0xE0 + n / 0x1000).toUInt8, (0x80 + n / 0x40 % 0x40).toUInt8, (0x80 + n % 0x40).toUInt8]
  else
    [(0xF0 + n / 0x40000).toUInt8, (0x80 + n / 0x1000 % 0x40).toUInt8,
      (0x80 + n / 0x40 % 0x40).toUInt8, (0x80 + n % 0x40).toUInt8]

def encode (t : Text) : List UInt8 :=
  t.flatMap encodeChar

inductive Reason
  | badStart
  | badContinuation
  | truncated
  deriving DecidableEq, Repr

/-- A fault: the bytes from `start` on, `size` of them, the first being `byte`. -/
structure Fault where
  start : Nat
  size : Nat
  byte : UInt8
  reason : Reason
  deriving DecidableEq, Repr

def Reason.message : Reason → Text
  | .badStart => "invalid start byte"
  | .badContinuation => "invalid continuation byte"
  | .truncated => "unexpected end of data"

def Fault.message (f : Fault) : Text :=
  if f.size = 1 then
    "'utf-8' codec can't decode byte 0x" ++ Text.hex 2 f.byte.toNat ++ " in position " ++
      Text.decimal f.start ++ ": " ++ f.reason.message
  else
    "'utf-8' codec can't decode bytes in position " ++ Text.decimal f.start ++ "-" ++
      Text.decimal (f.start + f.size - 1) ++ ": " ++ f.reason.message

/-- How many bytes follow a leading byte above 0x7F, and the range of the first
of them; `none` for a byte that leads nothing. -/
def shape (b : Nat) : Option (Nat × Nat × Nat) :=
  if b < 0xC2 then none
  else if b < 0xE0 then some (1, 0x80, 0xBF)
  else if b = 0xE0 then some (2, 0xA0, 0xBF)
  else if b = 0xED then some (2, 0x80, 0x9F)
  else if b < 0xF0 then some (2, 0x80, 0xBF)
  else if b = 0xF0 then some (3, 0x90, 0xBF)
  else if b < 0xF4 then some (3, 0x80, 0xBF)
  else if b = 0xF4 then some (3, 0x80, 0x8F)
  else none

/-- The bits of a character that a leading byte with `count` more to come holds. -/
def leadingBits (count n : Nat) : Nat :=
  if count = 1 then n % 0x20 else if count = 2 then n % 0x10 else n % 8

/-- Reads the bytes that follow a leading byte: `pending` of them are still to
come, the next one in the range from `low` to `high`, and `value` holds the bits
read so far. -/
def decodeFrom (pos : Nat) (lead : UInt8) (seen pending value low high : Nat) :
    List UInt8 → Except Fault Text
  | [] => if pending = 0 then .ok [] else .error ⟨pos - seen, seen, lead, .truncated⟩
  | b :: bs =>
    let n := b.toNat
    if pending = 0 then
      if n < 0x80 then (Char.ofNat n :: ·) <$> decodeFrom (pos + 1) b 0 0 0 0 0 bs
      else match shape n with
        | none => .error ⟨pos, 1, b, .badStart⟩
        | some (count, lo, hi) =>
          decodeFrom (pos + 1) b 1 count (leadingBits count n) lo hi bs
    else if low ≤ n ∧ n ≤ high then
      let bits := value * 0x40 + n % 0x40
      if pending = 1 then (Char.ofNat bits :: ·) <$> decodeFrom (pos + 1) b 0 0 0 0 0 bs
      else decodeFrom (pos + 1) lead (seen + 1) (pending - 1) bits 0x80 0xBF bs
    else .error ⟨pos - seen, seen, lead, .badContinuation⟩

def decode (bytes : List UInt8) : Except Fault Text :=
  decodeFrom 0 0 0 0 0 0 0 bytes

def replacement : Char := '\uFFFD'

/-- Reads on with a replacement character for each fault. A byte that a sequence
cannot go on with ends it and is read anew. -/
def decodeReplacingFrom (pending value low high : Nat) : List UInt8 → Text
  | [] => if pending = 0 then [] else [replacement]
  | b :: bs =>
    let n := b.toNat
    if pending ≠ 0 ∧ low ≤ n ∧ n ≤ high then
      let bits := value * 0x40 + n % 0x40
      if pending = 1 then Char.ofNat bits :: decodeReplacingFrom 0 0 0 0 bs
      else decodeReplacingFrom (pending - 1) bits 0x80 0xBF bs
    else
      let found :=
        if n < 0x80 then Char.ofNat n :: decodeReplacingFrom 0 0 0 0 bs
        else match shape n with
          | none => replacement :: decodeReplacingFrom 0 0 0 0 bs
          | some (count, lo, hi) => decodeReplacingFrom count (leadingBits count n) lo hi bs
      if pending = 0 then found else replacement :: found

/-- The text of any bytes at all. -/
def decodeReplacing (bytes : List UInt8) : Text :=
  decodeReplacingFrom 0 0 0 0 bytes

end ViewCases.Utf8
