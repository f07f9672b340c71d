import ViewCases.Source.Parse.Basic

/-! Which of two threads is better: the one that costs less, above all one without a defect. A
thread that costs much more is given up. -/
namespace ViewCases.Source.Parse

/-- How a thread stands. -/
structure Standing where
  cost : Nat
  /-- The number of nodes since its last defect. -/
  count : Nat
  weight : Int
  isInDefect : Bool

inductive Preference
  | takeLeft | preferLeft | none | preferRight | takeRight
  deriving DecidableEq, Repr

def Standing.compare (a b : Standing) : Preference :=
  if !a.isInDefect && b.isInDefect then
    if a.cost < b.cost then .takeLeft else .preferLeft
  else if a.isInDefect && !b.isInDefect then
    if b.cost < a.cost then .takeRight else .preferRight
  else if a.cost < b.cost then
    if costMargin < (b.cost - a.cost) * (1 + a.count) then .takeLeft else .preferLeft
  else if b.cost < a.cost then
    if costMargin < (a.cost - b.cost) * (1 + b.count) then .takeRight else .preferRight
  else if b.weight < a.weight then .preferLeft
  else if a.weight < b.weight then .preferRight
  else .none

variable (p : Parse)

/-- The number of nodes that a thread has read since its last defect. A thread that has gone back
beyond it counts from where it is now. -/
def countSince (v : Nat) (p : Parse) : Nat × Parse :=
  let count := (p.head v).count
  let p :=
    if count < (p.thread v).countBefore then p.setThread v ({ · with countBefore := count }) else p
  (count - (p.thread v).countBefore, p)

/-- The cost of a thread; a defect that has just begun counts too. -/
def costOf (v : Nat) : Nat :=
  let node := p.head v
  let begins := match node.links with
    | l :: _ => node.state = Table.defectState && l.tree.isNone
    | [] => false
  node.cost + if (p.thread v).status.isPaused || begins then Tree.defectCost else 0

def standingOf (v : Nat) (p : Parse) : Standing × Parse :=
  let isPaused := (p.thread v).status.isPaused
  let cost := p.costOf v + if isPaused then Tree.skippedTreeCost else 0
  let (count, p) := countSince v p
  let node := p.head v
  (⟨cost, count, node.weight, isPaused || node.state = Table.defectState⟩, p)

/-- Whether one of the threads makes another one of this standing at `v` pointless. -/
def isBeatenBy (v : Nat) (own : Standing) : List Nat → Parse → Bool × Parse
  | [], p => (false, p)
  | w :: rest, p =>
    if w = v || !p.isActive w || (p.placeOf w).chars < (p.placeOf v).chars then
      isBeatenBy v own rest p
    else
      let (other, p) := standingOf w p
      match own.compare other with
      | .takeRight => (true, p)
      | .preferRight => if p.canMerge w v then (true, p) else isBeatenBy v own rest p
      | _ => isBeatenBy v own rest p

/-- Whether a thread that would go on at this cost is pointless: there is a better one, or a
better tree already. -/
def hasBetter (v : Nat) (isInDefect : Bool) (cost : Nat) (p : Parse) : Bool × Parse :=
  if (p.finished.map fun t => decide (t.cost ≤ cost)).getD false then (true, p)
  else
    let (count, p) := countSince v p
    isBeatenBy v ⟨cost, count, (p.head v).weight, isInDefect⟩ (List.range p.threads.size) p

end ViewCases.Source.Parse
