import ViewCases.Yaml.Fault

/-! A place in a YAML text: what is left of it, and the line and column reached. -/
namespace ViewCases.Yaml

structure Cursor where
  rest : Text
  /-- Whether the text goes on behind `rest`, but cannot be had. -/
  isCut : Bool := false
  line : Nat := 0
  column : Nat := 0
  index : Nat := 0

def isBreak (c : Char) : Bool :=
  c == '\n' || c == '\r' || c.toNat == 0x85 || c.toNat == 0x2028 || c.toNat == 0x2029

namespace Cursor

def peek (c : Cursor) (n : Nat := 0) : Option Char :=
  c.rest[n]?

def atEnd (c : Cursor) : Bool :=
  c.rest.isEmpty

def sees (c : Cursor) (x : Char) (n : Nat := 0) : Bool :=
  c.peek n == some x

/-- Whether a line or the text ends at distance `n`. -/
def endsAt (c : Cursor) (n : Nat := 0) : Bool :=
  (c.peek n).all isBreak

/-- Whether a blank, a line end or the end of the text is at distance `n`. -/
def gapAt (c : Cursor) (n : Nat := 0) : Bool :=
  (c.peek n).all fun x => x == ' ' || x == '\t' || isBreak x

/-- One character further. A carriage return before a newline ends no line of its
own, and the byte order mark takes no column. -/
def advance (c : Cursor) : Cursor :=
  match c.rest with
  | [] => c
  | x :: rest =>
    if isBreak x && !(x == '\r' && rest.head? == some '\n') then
      { c with rest, line := c.line + 1, column := 0, index := c.index + 1 }
    else
      { c with
        rest, index := c.index + 1
        column := if x.toNat == 0xFEFF then c.column else c.column + 1 }

def forward : Nat → Cursor → Cursor
  | 0, c => c
  | n + 1, c => forward n c.advance

/-- The longest run of characters that satisfy `p`, and the place behind it. -/
def takeWhile (p : Char → Bool) (c : Cursor) : Text × Cursor :=
  let run := c.rest.takeWhile p
  (run, c.forward run.length)

def skipWhile (p : Char → Bool) (c : Cursor) : Cursor :=
  (c.takeWhile p).2

/-- The line break at this place, normalised, and the place behind it; the empty text
where there is none. -/
def takeBreak (c : Cursor) : Text × Cursor :=
  match c.rest with
  | '\r' :: '\n' :: _ => (['\n'], c.forward 2)
  | x :: _ =>
    if x == '\n' || x == '\r' || x.toNat == 0x85 then (['\n'], c.advance)
    else if isBreak x then ([x], c.advance)
    else ([], c)
  | [] => ([], c)

/-- Whether a document marker stands here, whatever the column. -/
def seesMarker (c : Cursor) : Bool :=
  (("---" : Text).isPrefixOf c.rest || ("..." : Text).isPrefixOf c.rest) && c.gapAt 3

/-- Stops unless the next `n` characters can be had, as far as the text goes. -/
def need (n : Nat) (c : Cursor) : Except Stop Unit :=
  if c.isCut && c.rest.length < n then .error .cut else .ok ()

/-- Stops for a fault that shows in the character at this place. -/
def fail {α : Type} (c : Cursor) (fault : Fault := .unreadable) : Except Stop α := do
  c.need 1
  .error (.fault fault)

end Cursor
end ViewCases.Yaml
