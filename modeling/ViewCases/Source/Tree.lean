import ViewCases.Source.Grammar.Basic
import ViewCases.Source.Input

/-! Trees of a source. Defects are part of a tree and have a cost. -/
namespace ViewCases.Source

/-- What a tree stands for. -/
inductive Kind
  | symbol (s : Nat)
  /-- A piece of the source that does not fit where it stands. -/
  | defect
  /-- What was skipped so far of such a piece. -/
  | skipped
  deriving DecidableEq, Repr

instance : Inhabited Kind := ⟨.defect⟩

def Kind.number : Kind → Int
  | .symbol s => s
  | .defect => -1
  | .skipped => -2

def Kind.isDefect : Kind → Bool
  | .symbol _ => false
  | _ => true

/-- What is known of a tree beside its children. -/
structure Label where
  kind : Kind
  /-- What lies before its first character. -/
  padding : Extent
  size : Extent
  /-- Whether the tree may stand anywhere. -/
  isExtra : Bool
  isShown : Bool
  /-- Whether the tree stands for a token that is not there. -/
  isMissing : Bool
  cost : Nat
  weight : Int
  /-- The number of nodes that it contributes to the node around it. -/
  shownChildren : Nat
  /-- The number of all nodes in it. -/
  shownParts : Nat
  /-- What its last mark says about open raw strings, if there is a mark in it. -/
  hashes : Option Nat
  /-- The names under which its children stand in the tree. -/
  aliases : List (Option String)
  deriving Inhabited

inductive Tree
  | node (label : Label) (children : List Tree)
  deriving Inhabited

namespace Tree

def label : Tree → Label
  | .node l _ => l

def children : Tree → List Tree
  | .node _ cs => cs

/-! ## Costs -/

def defectCost : Nat := 500
def missingCost : Nat := 110
def skippedTreeCost : Nat := 100
def skippedByteCost : Nat := 1
def skippedRowCost : Nat := 30

variable (t : Tree)

def kind : Kind := t.label.kind

def cost : Nat := t.label.cost

def isExtra : Bool := t.label.isExtra

def isLeaf : Bool := t.children.isEmpty

def reach : Extent := t.label.padding + t.label.size

/-- The number of nodes, as progress behind a defect is measured. -/
def nodeCount : Nat :=
  t.label.shownParts + (if t.label.isShown then 1 else 0) + (if t.kind = .skipped then 1 else 0)

def withExtra (isExtra : Bool) : Tree → Tree
  | .node l cs => .node { l with isExtra } cs

def addWeight (w : Int) : Tree → Tree
  | .node l cs => .node { l with weight := l.weight + w } cs

def leaf (g : Grammar) (kind : Kind) (padding size : Extent) (hashes : Option Nat) : Tree :=
  .node
    { kind, padding, size, hashes
      isExtra := kind = .symbol Grammar.endSymbol
      isShown := match kind with
        | .symbol s => g.shows s
        | _ => true
      isMissing := false
      cost := 0, weight := 0, shownChildren := 0, shownParts := 0, aliases := [] } []

def missing (g : Grammar) (symbol : Nat) : Tree :=
  match leaf g (.symbol symbol) {} {} none with
  | .node l cs => .node { l with isMissing := true, cost := missingCost + defectCost } cs

/-- What the children of a tree amount to. -/
structure Sum where
  reach : Extent
  cost : Nat
  weight : Int
  shownChildren : Nat
  shownParts : Nat
  hashes : Option Nat
  /-- The number of children that may not stand anywhere. -/
  ownChildren : Nat

/-- What skipping a tree costs, beside its length. -/
def skippingCost : Nat :=
  if t.isExtra || (t.kind = .defect && t.isLeaf) then 0
  else if t.label.isShown then skippedTreeCost
  else if t.isLeaf then 0
  else skippedTreeCost * t.label.shownChildren

def Sum.add (isDefect : Bool) (aliases : List (Option String)) (s : Sum) (t : Tree) : Sum :=
  let l := t.label
  let isRenamed := !l.isExtra && l.kind ≠ .symbol Grammar.endSymbol &&
    (aliases.getD s.ownChildren none).isSome
  let isNode := isRenamed || l.isShown
  { reach := s.reach + t.reach
    cost := s.cost + (if l.kind = .skipped then 0 else l.cost) +
      if isDefect then t.skippingCost else 0
    weight := s.weight + l.weight
    shownChildren := s.shownChildren +
      if isNode then 1 else if t.isLeaf then 0 else l.shownChildren
    shownParts := s.shownParts + l.shownParts + if isNode then 1 else 0
    hashes := l.hashes <|> s.hashes
    ownChildren := s.ownChildren + if l.isExtra then 0 else 1 }

/-- The tree with these children. Its first character is that of its first child. -/
def ofChildren (g : Grammar) (kind : Kind) (children : List Tree)
    (aliases : List (Option String)) (isExtra : Bool) : Tree :=
  let sum := children.foldl (Sum.add kind.isDefect aliases) ⟨{}, 0, 0, 0, 0, none, 0⟩
  let padding := (children.head?.map (·.label.padding)).getD {}
  let size := sum.reach - padding
  .node
    { kind, padding, size, isExtra, aliases
      isShown := match kind with
        | .symbol s => g.shows s
        | .defect => true
        | .skipped => false
      isMissing := false
      cost := sum.cost + if kind.isDefect then
          defectCost + skippedByteCost * size.bytes + skippedRowCost * size.rows
        else 0
      weight := sum.weight
      shownChildren := sum.shownChildren
      shownParts := sum.shownParts
      hashes := sum.hashes } children

/-! ## Comparing trees -/

mutual
/-- Compares two trees node by node, by kind and number of children. -/
def compare : Tree → Tree → Ordering
  | .node l cs, .node m ds =>
    ((Ord.compare l.kind.number m.kind.number).then (Ord.compare cs.length ds.length)).then
      (compareAll cs ds)
def compareAll : List Tree → List Tree → Ordering
  | c :: cs, d :: ds => (compare c d).then (compareAll cs ds)
  | _, _ => .eq
end

/-- Whether of two trees of the same piece the second one is taken: the one of less cost, else
the one of more weight. -/
def losesTo (t u : Tree) : Bool :=
  if u.cost < t.cost then true
  else if t.cost < u.cost then false
  else if t.label.weight < u.label.weight then true
  else if u.label.weight < t.label.weight then false
  else if 0 < t.cost then true
  else compare t u = .gt

/-- Whether two trees are interchangeable for what comes behind them. -/
def alike (t u : Tree) : Bool :=
  t.kind = u.kind &&
    ((0 < t.cost && 0 < u.cost) ||
      (t.label.padding.chars = u.label.padding.chars && t.label.size.chars = u.label.size.chars &&
        t.children.length = u.children.length && t.isExtra = u.isExtra &&
        t.label.hashes.getD 0 = u.label.hashes.getD 0))

/-- The trees without the last ones that may stand anywhere, and those. -/
def splitExtras (ts : List Tree) : List Tree × List Tree :=
  let extras := ts.reverse.takeWhile (·.isExtra)
  (ts.take (ts.length - extras.length), extras.reverse)

end Tree
end ViewCases.Source
