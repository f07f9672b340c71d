import Std.Data.HashMap
import ViewCases.Source.Grammar.Basic

/-! Items: productions up to the places that a parser can have reached in them. Two such places
are one item if they cannot be told apart by what is still to come and by what will be built.
-/
namespace ViewCases.Source

/-- What is built at the end of a production. -/
structure Reduction where
  rule : Nat
  /-- The number of parts. -/
  count : Nat
  weight : Int
  /-- The names under which the parts stand in the tree. -/
  aliases : List (Option String)
  deriving DecidableEq, Hashable, Repr, Inhabited

namespace Grammar
variable (g : Grammar)

/-- Whether the parts of a rule stand in the node around it. -/
def isHidden (rule : Nat) : Bool :=
  !g.shows (g.ruleSymbol rule) || g.isRenamed.getD rule false

/-- The hidden rules some part of which has a role in the node around the rule. -/
def roleRules : Nat → Array Bool → Array Bool
  | 0, found => found
  | fuel + 1, found =>
    let next := (List.range g.rules.size).foldl (fun found r =>
      let passes := (g.productions r).any fun p => p.steps.any fun s =>
        match g.ruleOf? s.symbol with
        | some q => s.otherName.isNone && !g.isRenamed.getD q false && g.isHidden q &&
            found.getD q false
        | none => false
      if g.isHidden r && passes then found.setIfInBounds r true else found) found
    if next == found then found else roleRules fuel next

def rulesWithRoles : Array Bool :=
  g.roleRules (g.rules.size + 1) (g.rules.mapIdx fun r ps =>
    g.isHidden r && ps.any (·.hasRole))

/-- The rules that stand under another name somewhere. -/
def aliasedRules : List Nat :=
  g.rules.toList.flatMap fun ps => ps.flatMap fun p => p.steps.filterMap fun s =>
    if s.otherName.isSome then g.ruleOf? s.symbol else none

/-- Whether a production only passes its one part on to a rule that leaves no trace in the
tree. -/
def passesOn (roles : Array Bool) (aliased : List Nat) (rule : Nat) (p : Production) : Bool :=
  match p.steps with
  | [s] =>
    p.weight = 0 && s.otherName.isNone && !p.hasRole && !g.shows (g.ruleSymbol rule) &&
      !aliased.contains rule &&
      match g.ruleOf? s.symbol with
      | some q => !(g.isHidden q && roles.getD q false)
      | none => true
  | _ => false

end Grammar

/-- What tells items apart. -/
structure ItemKey where
  rule : Nat
  weight : Int
  count : Nat
  /-- The number of parts before the place. -/
  done : Nat
  /-- Level and side of the part right before it. -/
  level : Int
  side : Option Side
  rest : List Step
  aliases : List (Option String)
  passesOn : Bool
  deriving DecidableEq, Hashable, Repr, Inhabited

structure Item where
  key : ItemKey
  /-- The symbol that comes next, and the item behind it. -/
  next : Option (Nat × Nat)
  /-- What the text behind the next symbol can begin with, if the production tells. -/
  behind : Option Bits
  /-- The number of what a complete item builds. -/
  reduction : Nat
  deriving Inhabited

/-- All items of a grammar. One more rule, which is not in the grammar, stands for a source
with its end. -/
structure Items where
  all : Array Item
  /-- The items at the beginning of each rule. -/
  starts : Array (List Nat)
  /-- The item at the beginning of a source. -/
  start : Nat
  reductions : Array Reduction
  deriving Inhabited

namespace Items

/-- Items while they are collected. -/
structure Draft where
  all : Array Item := #[]
  index : Std.HashMap ItemKey Nat := {}
  reductions : Array Reduction := #[]
  reductionIndex : Std.HashMap Reduction Nat := {}

def Draft.addReduction (d : Draft) (r : Reduction) : Nat × Draft :=
  match d.reductionIndex[r]? with
  | some n => (n, d)
  | none =>
    let n := d.reductions.size
    (n, { d with
      reductions := d.reductions.push r, reductionIndex := d.reductionIndex.insert r n })

def Draft.add (d : Draft) (i : Item) : Nat × Draft :=
  match d.index[i.key]? with
  | some n => (n, d)
  | none =>
    let n := d.all.size
    (n, { d with all := d.all.push i, index := d.index.insert i.key n })

/-- Adds the items of a production from some place on. `before` are the steps up to there,
the nearest first. -/
def Draft.addFrom (firsts : Array Bits) (rule : Nat) (weight : Int) (count : Nat)
    (passesOn : Bool) : List Step → List Step → Draft → Nat × Draft
  | before, [], d =>
    let (reduction, d) := d.addReduction ⟨rule, count, weight, (before.map (·.otherName)).reverse⟩
    d.add ⟨key before [], none, none, reduction⟩
  | before, s :: rest, d =>
    let (succ, d) := addFrom firsts rule weight count passesOn (s :: before) rest d
    d.add ⟨key before (s :: rest), some (s.symbol, succ),
      rest.head?.map fun t => firsts.getD t.symbol .empty, 0⟩
where
  key (before rest : List Step) : ItemKey :=
    { rule, weight, count, done := before.length
      level := (before.head?.map (·.level)).getD 0
      side := before.head?.bind (·.side)
      rest, aliases := (before.map (·.otherName)).reverse
      passesOn := passesOn && rest.isEmpty }

def ofGrammar (g : Grammar) : Items :=
  let firsts := g.firsts
  let roles := g.rulesWithRoles
  let aliased := g.aliasedRules
  let (starts, d) := g.rules.foldl (fun (starts, d) ps =>
    let rule := starts.size
    let (items, d) := ps.foldl (fun (items, d) p =>
      let (i, d) := Draft.addFrom firsts rule p.weight p.steps.length
        (g.passesOn roles aliased rule p) [] p.steps d
      (i :: items, d)) ([], d)
    (starts.push items.reverse, d)) ((#[] : Array (List Nat)), ({} : Draft))
  let (start, d) := Draft.addFrom firsts g.rules.size 0 1 false []
    [⟨g.ruleSymbol 0, 0, none, none⟩] d
  ⟨d.all, starts, start, d.reductions⟩

def get (is : Items) (i : Nat) : Item := is.all.getD i default

end Items

namespace Item

def isComplete (i : Item) : Bool := i.next.isNone

def sideNumber : Option Side → Int
  | none => -1
  | some .left => 0
  | some .right => 1

/-- Complete items come in the order of these numbers, and then of the names they use. -/
def order (i : Item) : List Int :=
  [i.key.done, i.key.rule, i.key.weight, i.key.count, i.key.level, sideNumber i.key.side]

def precedes (i j : Item) : Bool :=
  if i.order == j.order then
    !(j.key.aliases.map (·.getD "")).lex (i.key.aliases.map (·.getD "")) fun a b => a < b
  else i.order.lex j.order fun a b => a < b

end Item
end ViewCases.Source
