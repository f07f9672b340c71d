import ViewCases.Source.Tree

/-! The nodes of a tree: the parts of hidden rules stand in the node around them. -/
namespace ViewCases.Source

/-- A node with its place in the source. -/
structure Part where
  name : String
  /-- Where its first character is. -/
  start : Extent
  stop : Extent
  /-- Whether it is a defect or a token that is not there. -/
  isFault : Bool
  /-- Whether there is a defect in it. -/
  isFaulty : Bool
  deriving Repr, Inhabited

inductive Outline
  | node (part : Part) (children : List Outline)
  deriving Inhabited

namespace Outline

def part : Outline → Part
  | .node p _ => p

def children : Outline → List Outline
  | .node _ cs => cs

def defectName : String := "ERROR"

def nameOf (g : Grammar) (l : Label) : String :=
  match l.kind with
  | .symbol s => g.nameOf s
  | _ => defectName

/-- The place of a tree of which the padding begins at a place. -/
def partAt (name : String) (place : Extent) (l : Label) : Part where
  name
  start := place + l.padding
  stop := place + l.padding + l.size
  isFault := l.kind = .defect || l.isMissing
  isFaulty := 0 < l.cost

mutual
/-- The nodes in a tree at a place, the nearest ones only; `found` are those behind it. -/
def nodesOf (g : Grammar) (place : Extent) : Tree → List Outline → List Outline
  | .node l cs, found => nodesOfAll g l.aliases place cs found
/-- The nodes in trees from a place on. A tree that is renamed or shown is a node. -/
def nodesOfAll (g : Grammar) (aliases : List (Option String)) (place : Extent) :
    List Tree → List Outline → List Outline
  | [], found => found
  | .node l cs :: ts, found =>
    let isOwn := !l.isExtra && l.kind ≠ .symbol Grammar.endSymbol
    let otherName := if isOwn then (aliases.head?).join else none
    let aliases := if l.isExtra then aliases else aliases.drop 1
    let behind := nodesOfAll g aliases (place + l.padding + l.size) ts found
    if otherName.isSome || l.isShown then
      let part := partAt (otherName.getD (nameOf g l)) place l
      .node part (nodesOf g place (.node l cs) []) :: behind
    else nodesOf g place (.node l cs) behind
end

def ofTree (g : Grammar) (t : Tree) : Outline :=
  .node (partAt (nameOf g t.label) {} t.label) (nodesOf g {} t [])

mutual
/-- The first fault in a node, outer ones first. -/
def firstFault : Outline → Option Part
  | .node p cs =>
    if !p.isFaulty then none else if p.isFault then some p else firstFaultIn cs
def firstFaultIn : List Outline → Option Part
  | [] => none
  | c :: cs =>
    match firstFault c with
    | some p => some p
    | none => firstFaultIn cs
end

mutual
def named (name : String) : Outline → List Outline
  | .node p cs => if p.name = name then [.node p cs] else namedIn name cs
def namedIn (name : String) : List Outline → List Outline
  | [] => []
  | c :: cs => named name c ++ namedIn name cs
end

end Outline
end ViewCases.Source
