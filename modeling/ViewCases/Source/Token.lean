import ViewCases.Source.Pattern

/-! The kinds of tokens. Whether a token can stand at some place is for the grammar to
say; the same text can be one kind of token here and another one there. -/
namespace ViewCases.Source

/-- A kind of token that its own characters make out. Of two kinds that match, the one of
higher rank counts. -/
structure Token where
  name : String
  pattern : Pattern
  /-- Whether the token is a fixed text, which is then its name too. -/
  isWord : Bool
  rank : Int
  /-- Whether no white space may stand before it. -/
  isAdjacent : Bool
  deriving DecidableEq, Repr

namespace Token

def word (s : String) : Token := ⟨s, s, true, 0, false⟩

/-- A fixed text right behind the token before it. -/
def adjacent (s : String) : Token := ⟨s, s, true, 0, true⟩

def ofPattern (name : String) (p : Pattern) : Token := ⟨name, p, false, 0, false⟩

def withRank (t : Token) (rank : Int) : Token := { t with rank }

/-- Kinds of tokens differ in one of these. -/
def same (t u : Token) : Bool :=
  t.name = u.name && t.isWord = u.isWord && t.rank = u.rank && t.isAdjacent = u.isAdjacent

end Token

/-- The kinds of tokens that depend on more than their own characters: on the white space
around them, on what the grammar admits, or on a token before. -/
inductive Mark
  | blockComment | rawText | rawTextAgain | rawTextEnd | lineEnd | semicolon
  | arrow | dot | conjunction | disjunction | nilCoalescing | assign | equal
  | plusThenBlank | minusThenBlank | bang | throwsWord | rethrowsWord | defaultWord | whereWord
  | elseWord | catchWord | asWord | asOptional | asForced | asyncWord | customOperator | hash
  | ifDirective | elseifDirective | elseDirective | endifDirective | tryBang
  deriving DecidableEq, Repr

namespace Mark

def all : List Mark :=
  [.blockComment, .rawText, .rawTextAgain, .rawTextEnd, .lineEnd, .semicolon, .arrow, .dot,
   .conjunction, .disjunction, .nilCoalescing, .assign, .equal, .plusThenBlank, .minusThenBlank,
   .bang, .throwsWord, .rethrowsWord, .defaultWord, .whereWord, .elseWord, .catchWord, .asWord,
   .asOptional, .asForced, .asyncWord, .customOperator, .hash, .ifDirective, .elseifDirective,
   .elseDirective, .endifDirective, .tryBang]

def index (m : Mark) : Nat := m.ctorIdx

/-- The name of a mark that is a node of its own in a tree. -/
def name? : Mark → Option String
  | .blockComment => some "blockComment"
  | .rawText => some "rawText"
  | .rawTextAgain => some "rawTextAgain"
  | .rawTextEnd => some "rawTextEnd"
  | .defaultWord => some "default"
  | .whereWord => some "where"
  | .elseWord => some "else"
  | .catchWord => some "catch"
  | _ => none

def isShown (m : Mark) : Bool := m.name?.isSome

end Mark
end ViewCases.Source
