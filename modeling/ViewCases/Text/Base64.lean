import ViewCases.Text.Basic

/-! Bytes out of a base 64 text. Characters outside of the alphabet count for nothing;
padding that fills a group of four ends the text. -/
namespace ViewCases.Base64

/-- The six bits that a character stands for. -/
def bits? (c : Char) : Option Nat :=
  if 'A' ≤ c ∧ c ≤ 'Z' then some (c.toNat - 65)
  else if 'a' ≤ c ∧ c ≤ 'z' then some (c.toNat - 71)
  else if '0' ≤ c ∧ c ≤ '9' then some (c.toNat + 4)
  else if c = '+' then some 62
  else if c = '/' then some 63
  else none

/-- The bytes behind a place in a group: `place` characters of it were read, `pads` are
the padding characters since the last of them, and `held` are the bits not yet used. -/
def decodeFrom (place pads held : Nat) : Text → Option (List UInt8)
  | [] => if place = 0 then some [] else none
  | c :: cs =>
    if c = '=' then
      if 2 ≤ place ∧ 4 ≤ place + pads + 1 then some []
      else decodeFrom place (if 2 ≤ place then pads + 1 else pads) held cs
    else match bits? c with
      | none => decodeFrom place pads held cs
      | some n =>
        match place with
        | 0 => decodeFrom 1 0 n cs
        | 1 => ((held * 4 + n / 16).toUInt8 :: ·) <$> decodeFrom 2 0 (n % 16) cs
        | 2 => ((held * 16 + n / 4).toUInt8 :: ·) <$> decodeFrom 3 0 (n % 4) cs
        | _ => ((held * 64 + n).toUInt8 :: ·) <$> decodeFrom 0 0 0 cs

/-- The bytes that a text stands for, unless it ends within a group. -/
def decode? (t : Text) : Option (List UInt8) :=
  decodeFrom 0 0 0 t

end ViewCases.Base64
