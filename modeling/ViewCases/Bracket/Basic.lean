import ViewCases.Text.Blank

/-! The four kinds of brackets of Swift text, and balance. The head of a function
arrow is never a closing angle bracket. Every kind keeps its own count, so
brackets of different kinds may cross. -/
namespace ViewCases

inductive Bracket
  | angle
  | paren
  | square
  | brace
  deriving DecidableEq, Repr

namespace Bracket

def all : List Bracket := [.angle, .paren, .square, .brace]

def opener : Bracket → Char
  | .angle => '<'
  | .paren => '('
  | .square => '['
  | .brace => '{'

def closer : Bracket → Char
  | .angle => '>'
  | .paren => ')'
  | .square => ']'
  | .brace => '}'

def ofOpener? (c : Char) : Option Bracket :=
  all.find? fun b => c == b.opener

def isOpener (c : Char) : Bool :=
  all.any fun b => c == b.opener

def isCloser (c : Char) : Bool :=
  all.any fun b => c == b.closer

/-- Whether `c` is the head of an arrow, given the character before it. -/
def arrowHead (prev : Option Char) (c : Char) : Bool :=
  c == '>' && prev == some '-'

/-- Whether `c` closes a bracket of kind `b`, given the character before it. -/
def closes (b : Bracket) (prev : Option Char) (c : Char) : Bool :=
  c == b.closer && !arrowHead prev c

/-- Whether the text closes exactly the brackets of kind `b` that it opens and
the `depth` ones open before it, none of them too early. -/
def balancedFrom (b : Bracket) (prev : Option Char) (depth : Nat) : Text → Bool
  | [] => depth == 0
  | c :: cs =>
    if c = b.opener then balancedFrom b (some c) (depth + 1) cs
    else if b.closes prev c then
      match depth with
      | 0 => false
      | d + 1 => balancedFrom b (some c) d cs
    else balancedFrom b (some c) depth cs

def isBalanced (t : Text) : Bool :=
  all.all fun b => balancedFrom b none 0 t

theorem ofOpener?_opener (b : Bracket) : ofOpener? b.opener = some b := by
  cases b <;> rfl

theorem mem_all (b : Bracket) : b ∈ all := by
  cases b <;> simp [all]

theorem opener_ne_closer (b d : Bracket) : b.opener ≠ d.closer := by
  cases b <;> cases d <;> decide

end Bracket
end ViewCases
