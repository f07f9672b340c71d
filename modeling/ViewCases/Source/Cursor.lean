import ViewCases.Text.Property

/-! A place in a source from which a mark is read. -/
namespace ViewCases.Source
open Text

/-- A place in a source, with the mark that is being read there. -/
structure Cursor where
  rest : List Char
  pos : Nat
  start : Nat
  /-- Where the mark ends, if that is known. -/
  stop : Option Nat
  /-- At least the number of characters left: no loop over them takes more steps. -/
  limit : Nat
  deriving Repr, Inhabited

namespace Cursor

def ofRest (rest : List Char) (pos limit : Nat) : Cursor := ⟨rest, pos, pos, none, limit⟩

/-- What stands for a next character at the end of a source. -/
def endChar : Char := '\x00'

def peek (c : Cursor) : Char := c.rest.headD endChar

def advance (c : Cursor) : Cursor :=
  match c.rest with
  | [] => c
  | _ :: rest => { c with rest, pos := c.pos + 1 }

/-- As `advance`; the mark begins behind the character. -/
def skip (c : Cursor) : Cursor :=
  let c := c.advance
  { c with start := c.pos }

/-- The mark ends here unless it goes on. -/
def settle (c : Cursor) : Cursor := { c with stop := some c.pos }

/-- Applies `step` as long as the next character satisfies `p`. -/
def stepWhile (p : Char → Bool) (step : Cursor → Cursor) : Nat → Cursor → Cursor
  | 0, c => c
  | fuel + 1, c => if !c.rest.isEmpty && p c.peek then stepWhile p step fuel (step c) else c

def skipWhile (p : Char → Bool) (c : Cursor) : Cursor :=
  stepWhile p skip c.limit c

end Cursor

/-- White space between marks; the no-break spaces and the next-line character are not. -/
def isGap (c : Char) : Bool :=
  inRanges [(9, 13), (32, 32), (0x1680, 0x1680), (0x2000, 0x2006), (0x2008, 0x200A),
    (0x2028, 0x2029), (0x205F, 0x205F), (0x3000, 0x3000)] c

/-- Letters, digits and other numerals. -/
def isNamePart (c : Char) : Bool := isWord c && c ≠ '_'

end ViewCases.Source
