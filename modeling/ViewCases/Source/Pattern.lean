import ViewCases.Source.Charset

/-! The patterns of tokens: regular expressions over sets of characters. -/
namespace ViewCases.Source

inductive Pattern
  | empty
  | one (set : Charset)
  | seq (first second : Pattern)
  | alt (first second : Pattern)
  | star (body : Pattern)
  deriving DecidableEq, Repr

namespace Pattern

def text (s : String) : Pattern :=
  s.toList.foldr (fun c p => seq (one (Charset.ofClasses [c.toNat])) p) empty

instance : Coe String Pattern := ⟨text⟩
instance : Coe Charset Pattern := ⟨one⟩

def all (ps : List Pattern) : Pattern :=
  ps.foldr seq empty

/-- Any one of the patterns; the list is not to be empty. -/
def any : List Pattern → Pattern
  | [] => empty
  | [p] => p
  | p :: ps => alt p (any ps)

def plus (p : Pattern) : Pattern := seq p (star p)

def optional (p : Pattern) : Pattern := alt p empty

/-- Digits, with runs of underscores between them. -/
def number (digits : Charset) : Pattern :=
  all [plus digits, star (all [plus (Charset.ofString "_"), plus digits])]

end Pattern
end ViewCases.Source
