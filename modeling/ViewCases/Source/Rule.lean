import ViewCases.Source.Token

/-! The notation of a grammar: named rules over tokens and marks, with precedences to
choose between readings. -/
namespace ViewCases.Source

/-- Which of two equal operators binds first. -/
inductive Side
  | left | right
  deriving DecidableEq, Repr, Hashable

/-- What a grammar says about a part of a rule beside its shape. -/
structure Note where
  level : Option Int := none
  side : Option Side := none
  /-- How much more (or less) a reading with this part counts than one without. -/
  weight : Int := 0
  /-- The name under which the part stands in the tree. -/
  otherName : Option String := none
  /-- Whether the part has a role of its own in the node around it. -/
  hasRole : Bool := false
  deriving DecidableEq, Repr

/-- The outer of two notes on one part wins where both speak. -/
def Note.over (outer inner : Note) : Note where
  level := outer.level <|> inner.level
  side := outer.side <|> inner.side
  weight := if outer.weight = 0 then inner.weight else outer.weight
  otherName := outer.otherName <|> inner.otherName
  hasRole := outer.hasRole || inner.hasRole

inductive Rule
  | empty
  | token (kind : Token)
  | mark (kind : Mark)
  | name (rule : String)
  | seq (parts : List Rule)
  | alt (parts : List Rule)
  /-- The part once or more often. -/
  | many (part : Rule)
  | noted (note : Note) (part : Rule)
  deriving Repr

namespace Rule

instance : Coe String Rule := ⟨fun s => token (.word s)⟩
instance : Coe Mark Rule := ⟨mark⟩
instance : Coe Token Rule := ⟨token⟩

mutual
/-- Whether two rules are written alike. -/
def same : Rule → Rule → Bool
  | empty, empty => true
  | token t, token u => t.same u
  | mark m, mark n => m = n
  | name r, name s => r = s
  | seq ps, seq qs => sameAll ps qs
  | alt ps, alt qs => sameAll ps qs
  | many p, many q => same p q
  | noted n p, noted m q => n = m && same p q
  | _, _ => false
def sameAll : List Rule → List Rule → Bool
  | [], [] => true
  | p :: ps, q :: qs => same p q && sameAll ps qs
  | _, _ => false
end

/-- The alternatives of a rule that is a choice, else the rule itself. -/
def alternatives : Rule → List Rule
  | alt ps => ps
  | p => [p]

def distinct (ps : List Rule) : List Rule :=
  ps.foldl (fun found p => if found.any (same p) then found else found ++ [p]) []

/-- A choice in one level, without repetition. -/
def oneOf (ps : List Rule) : Rule :=
  match distinct (ps.flatMap alternatives) with
  | [p] => p
  | qs => alt qs

def anyNamed (names : List String) : Rule := oneOf (names.map name)

def anyWord (words : List String) : Rule := oneOf (words.map fun w => token (.word w))

def maybe (p : Rule) : Rule := oneOf [p, empty]

def several (p : Rule) : Rule := oneOf [many p, empty]

def chain (ps : List (List Rule)) : Rule := seq ps.flatten

/-- One or more parts with a separator between neighbours. -/
def separated (p sep : Rule) : Rule := seq [p, several (seq [sep, p])]

/-- As `separated`, with one more separator admitted at the end. -/
def listed (p sep : Rule) : Rule := seq [p, several (seq [sep, p]), maybe sep]

def withNote (n : Note) : Rule → Rule
  | noted m p => noted (n.over m) p
  | p => noted n p

/-- Where readings compete, the part counts with this level. -/
def level (l : Int) (p : Rule) : Rule := p.withNote { level := some l }

def leftLevel (l : Int) (p : Rule) : Rule := p.withNote { level := some l, side := some .left }

def rightLevel (l : Int) (p : Rule) : Rule := p.withNote { level := some l, side := some .right }

def left (p : Rule) : Rule := p.leftLevel 0

def right (p : Rule) : Rule := p.rightLevel 0

def weight (w : Int) (p : Rule) : Rule := p.withNote { weight := w }

/-- The part stands in the tree under another name. -/
def shownAs (p : Rule) (n : String) : Rule := p.withNote { otherName := some n }

/-- The part has a role of its own in the node around it. -/
def inRole (p : Rule) : Rule := p.withNote { hasRole := true }

end Rule

/-- A named rule. Only a shown one is a node of the tree; the parts of another one stand
in the node around it. -/
structure Definition where
  name : String
  isShown : Bool
  rule : Rule
  deriving Repr

def shown (name : String) (rule : Rule) : Definition := ⟨name, true, rule⟩

def hidden (name : String) (rule : Rule) : Definition := ⟨name, false, rule⟩

end ViewCases.Source
