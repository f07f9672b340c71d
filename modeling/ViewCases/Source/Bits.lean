/-! Sets of numbers below 256. There are fewer kinds of tokens than that, and fewer classes
of characters. -/
namespace ViewCases.Source

/-- A set of numbers below 256, 64 of them in each word. -/
structure Bits where
  word0 : UInt64 := 0
  word1 : UInt64 := 0
  word2 : UInt64 := 0
  word3 : UInt64 := 0
  deriving DecidableEq, Hashable, Repr

namespace Bits

def empty : Bits := {}

instance : Inhabited Bits := ⟨empty⟩

def isEmpty (s : Bits) : Bool :=
  s.word0 == 0 && s.word1 == 0 && s.word2 == 0 && s.word3 == 0

def union (s t : Bits) : Bits :=
  ⟨s.word0 ||| t.word0, s.word1 ||| t.word1, s.word2 ||| t.word2, s.word3 ||| t.word3⟩

def inter (s t : Bits) : Bits :=
  ⟨s.word0 &&& t.word0, s.word1 &&& t.word1, s.word2 &&& t.word2, s.word3 &&& t.word3⟩

def diff (s t : Bits) : Bits :=
  ⟨s.word0 &&& ~~~t.word0, s.word1 &&& ~~~t.word1, s.word2 &&& ~~~t.word2,
   s.word3 &&& ~~~t.word3⟩

def meets (s t : Bits) : Bool := !(s.inter t).isEmpty

def single (n : Nat) : Bits :=
  let bit : UInt64 := 1 <<< (n % 64).toUInt64
  match n / 64 with
  | 0 => { word0 := bit }
  | 1 => { word1 := bit }
  | 2 => { word2 := bit }
  | 3 => { word3 := bit }
  | _ => {}

def insert (s : Bits) (n : Nat) : Bits := s.union (single n)

def contains (s : Bits) (n : Nat) : Bool :=
  let word := match n / 64 with
    | 0 => s.word0
    | 1 => s.word1
    | 2 => s.word2
    | 3 => s.word3
    | _ => 0
  (word >>> (n % 64).toUInt64) &&& 1 == 1

def ofList (ns : List Nat) : Bits := ns.foldl insert empty

/-- Puts the numbers of one word, the greatest first, before a list. At most 64 of them are
there. -/
def prepend (base : Nat) : Nat → UInt64 → List Nat → List Nat
  | 0, _, ns => ns
  | fuel + 1, word, ns =>
    if word == 0 then ns
    else
      let greatest := word.log2
      prepend base fuel (word ^^^ (1 <<< greatest)) ((base + greatest.toNat) :: ns)

def toList (s : Bits) : List Nat :=
  prepend 0 64 s.word0 (prepend 64 64 s.word1 (prepend 128 64 s.word2
    (prepend 192 64 s.word3 [])))

def below (bound : Nat) : Bits := ofList (List.range bound)

/-- The union of the sets of an array that belong to the members of a set. -/
def unionOf (sets : Array Bits) (members : Bits) : Bits :=
  members.toList.foldl (fun u n => u.union (sets.getD n empty)) empty

end Bits
end ViewCases.Source
