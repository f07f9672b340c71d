import ViewCases.Source.Bits
import ViewCases.Text.NameChar

/-! Sets of characters as the patterns of tokens use them. A pattern never tells two
characters of one class apart, so that a set is a set of classes. -/
namespace ViewCases.Source
open Text

/-- A set of character classes. -/
structure Charset where
  classes : Bits
  deriving DecidableEq, Repr, Inhabited

namespace Charset

/-- The number of classes: a character below U+0080 is a class of its own, and nine classes
hold the others. -/
def classCount : Nat := 137

def variationClass : Nat := 133
def keycapClass : Nat := 134
def joinerClass : Nat := 135

/-- The class of a character above U+007F: by what it can be in a name, and three
characters that combine with the one before are classes of their own. -/
def classOfWide (c : Char) : Nat :=
  if c = '\uFE0F' then variationClass
  else if c = '\u20E3' then keycapClass
  else if c = '\u200D' then joinerClass
  else if 0x1F3FB ≤ c.toNat && c.toNat ≤ 0x1F3FF then 132
  else if inRanges nameStartRanges c then (if inRanges emojiRanges c then 136 else 129)
  else if inRanges nameContinueRanges c then 130
  else if inRanges emojiRanges c then 131
  else 128

def classOf (c : Char) : Nat :=
  if c.toNat < 128 then c.toNat else classOfWide c

def ofClasses (classes : List Nat) : Charset := ⟨Bits.ofList classes⟩

def union (a b : Charset) : Charset := ⟨a.classes.union b.classes⟩

def all : Charset := ⟨Bits.below classCount⟩

def diff (a b : Charset) : Charset := ⟨a.classes.diff b.classes⟩

def inter (a b : Charset) : Charset := ⟨a.classes.inter b.classes⟩

def meets (a b : Charset) : Bool := a.classes.meets b.classes

def contains (a : Charset) (cls : Nat) : Bool := a.classes.contains cls

def ofString (s : String) : Charset :=
  ofClasses (s.toList.map (·.toNat))

/-- All characters but those of a text. -/
def except (s : String) : Charset := all.diff (ofString s)

def range (first last : Char) : Charset :=
  ofClasses ((List.range (last.toNat + 1)).filter (first.toNat ≤ ·))

def digits : Charset := range '0' '9'

/-- What white space between tokens is made of. -/
def blank : Charset := ofString " \t\n\r\x0b\x0c"

def asciiLetters : Charset := (range 'a' 'z').union (range 'A' 'Z')

/-- What a name can begin with. An emoji can, unless it is a character below U+0080. -/
def nameStart : Charset :=
  (asciiLetters.union (ofString "_")).union (ofClasses [129, 131, 132, 136])

/-- What a name can go on with; some signs below U+0080 have an emoji form too. -/
def nameContinue : Charset :=
  ((nameStart.union digits).union (ofString "#*")).union
    (ofClasses [130, variationClass, joinerClass])

def emojiModifiers : Charset := ofClasses [132]

end Charset
end ViewCases.Source
