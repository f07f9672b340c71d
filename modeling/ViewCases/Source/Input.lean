import ViewCases.Source.Charset

/-! A source as a parser sees it, and places in it. -/
namespace ViewCases.Source

/-- How far a piece of a source reaches. -/
structure Extent where
  chars : Nat := 0
  /-- The length of its UTF-8 form. -/
  bytes : Nat := 0
  /-- The number of its newlines. -/
  rows : Nat := 0
  deriving DecidableEq, Repr, Inhabited

namespace Extent

def add (a b : Extent) : Extent := ⟨a.chars + b.chars, a.bytes + b.bytes, a.rows + b.rows⟩

instance : Add Extent := ⟨add⟩

/-- What lies between two places. -/
def sub (a b : Extent) : Extent := ⟨a.chars - b.chars, a.bytes - b.bytes, a.rows - b.rows⟩

instance : Sub Extent := ⟨sub⟩

def ofChar (c : Char) : Extent := ⟨1, c.utf8Size, if c = '\n' then 1 else 0⟩

end Extent

/-- A source with what lies behind and before each of its places. -/
structure Input where
  size : Nat
  /-- The characters from each place on. -/
  tails : Array (List Char)
  /-- Their classes. -/
  classTails : Array (List Nat)
  /-- What lies before each place. -/
  extents : Array Extent
  deriving Inhabited

namespace Input

/-- A list and all that is left of it after its first elements. -/
def tailsOf {α : Type} : List α → List (List α)
  | [] => [[]]
  | a :: l => (a :: l) :: tailsOf l

/-- What lies before each place; `before` lies before the first one. -/
def extentsFrom (before : Extent) : List Char → List Extent
  | [] => [before]
  | c :: cs => before :: extentsFrom (before + .ofChar c) cs

def ofChars (cs : List Char) : Input where
  size := cs.length
  tails := (tailsOf cs).toArray
  classTails := (tailsOf (cs.map Charset.classOf)).toArray
  extents := (extentsFrom {} cs).toArray

variable (i : Input)

def tailAt (pos : Nat) : List Char := i.tails.getD pos []

def classesAt (pos : Nat) : List Nat := i.classTails.getD pos []

def extentAt (pos : Nat) : Extent := i.extents.getD pos default

def between (start stop : Nat) : Extent := i.extentAt stop - i.extentAt start

end Input
end ViewCases.Source
