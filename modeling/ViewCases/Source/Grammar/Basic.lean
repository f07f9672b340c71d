import ViewCases.Source.Bits
import ViewCases.Source.Rule

/-! Grammars in normal form: a rule is a list of productions, and a production is a list of
numbered symbols. -/
namespace ViewCases.Source

/-- One part of a production. -/
structure Step where
  symbol : Nat
  level : Int
  side : Option Side
  /-- The name under which the part stands in the tree, if not under its own. -/
  otherName : Option String
  deriving DecidableEq, Hashable, Repr, Inhabited

/-- One way to make out what a rule names. -/
structure Production where
  steps : List Step
  weight : Int
  /-- Whether a part has a role of its own in the node around it. -/
  hasRole : Bool
  deriving DecidableEq, Repr, Inhabited

/-- A grammar. Symbol 0 is the end of the source. The tokens come behind it, then the marks,
then the rules; the first rule is that of a whole source. -/
structure Grammar where
  tokens : Array Token
  rules : Array (List Production)
  /-- The name of each symbol. -/
  names : Array String
  /-- Whether a symbol is a node of the tree. -/
  isShown : Array Bool
  /-- Whether a rule stands for a part that is repeated. -/
  isRepetition : Array Bool
  /-- The symbols that may stand anywhere. -/
  extras : Bits
  /-- Rules whose name always gives way to another one where they are used. -/
  isRenamed : Array Bool
  deriving Inhabited

namespace Grammar

def endSymbol : Nat := 0

def tokenSymbol (token : Nat) : Nat := token + 1

/-- The number of symbols that a source itself is made of, its end included. -/
def terminalCount (g : Grammar) : Nat := g.tokens.size + 1 + Mark.all.length

def markSymbol (g : Grammar) (m : Mark) : Nat := g.tokens.size + 1 + m.index

def ruleSymbol (g : Grammar) (rule : Nat) : Nat := g.terminalCount + rule

def ruleOf? (g : Grammar) (symbol : Nat) : Option Nat :=
  if symbol < g.terminalCount then none else some (symbol - g.terminalCount)

def nameOf (g : Grammar) (symbol : Nat) : String := g.names.getD symbol ""

def shows (g : Grammar) (symbol : Nat) : Bool := g.isShown.getD symbol false

def productions (g : Grammar) (rule : Nat) : List Production := g.rules.getD rule []

/-- Marks are more than their characters, so they are kept apart from the tokens. -/
def markSymbols (g : Grammar) : Bits := Bits.ofList (Mark.all.map g.markSymbol)

/-- The tokens of a set of symbols. -/
def tokensIn (g : Grammar) (symbols : Bits) : Bits :=
  symbols.inter (Bits.ofList ((List.range g.tokens.size).map tokenSymbol))

/-- Applies a step to the sets of all rules until nothing changes; the sets only grow, so a
number of rounds bounded by the number of rules is enough. -/
def settle (g : Grammar) (step : Array Bits → Nat → Bits) : Nat → Array Bits → Array Bits
  | 0, sets => sets
  | fuel + 1, sets =>
    let next := (List.range g.rules.size).foldl (fun s r => s.setIfInBounds r (step s r)) sets
    if next == sets then sets else settle g step fuel next

/-- For each symbol, the symbols of a source that its text can have at the end that `pick`
chooses. -/
def borders (g : Grammar) (pick : List Step → Option Step) : Array Bits :=
  let own := ((List.range g.terminalCount).map Bits.single).toArray
  let border (sets : Array Bits) (symbol : Nat) : Bits :=
    match g.ruleOf? symbol with
    | none => own.getD symbol Bits.empty
    | some r => sets.getD r Bits.empty
  let step (sets : Array Bits) (r : Nat) : Bits :=
    (g.productions r).foldl (fun s p => match pick p.steps with
      | none => s
      | some st => s.union (border sets st.symbol)) Bits.empty
  own ++ g.settle step (g.rules.size + 1) (Array.replicate g.rules.size Bits.empty)

def firsts (g : Grammar) : Array Bits := g.borders List.head?

def lasts (g : Grammar) : Array Bits := g.borders List.getLast?

end Grammar
end ViewCases.Source
