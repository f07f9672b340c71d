import ViewCases.Source.Automaton.Table
import ViewCases.Source.Tree

/-! Parsing along several threads at once. The threads share what they have read: behind each
state stand one or more links to the states before it, each with the tree between the two. -/
namespace ViewCases.Source

/-- A way back from a state. There is no tree where a defect begins. -/
structure Link where
  node : Nat
  tree : Option Tree
  deriving Inhabited

/-- A state that was reached at a place of the source. -/
structure Node where
  state : Nat
  place : Extent
  links : List Link
  cost : Nat
  /-- The number of nodes in the trees up to here. -/
  count : Nat
  weight : Int
  deriving Inhabited

/-- A place to go back to behind a defect. -/
structure Refuge where
  place : Extent
  /-- The number of trees to give up. -/
  depth : Nat
  state : Nat

inductive Status
  | active
  /-- The tree that comes next fits nowhere. -/
  | paused (next : Tree)
  | halted
  deriving Inhabited

/-- One way to read the source up to some place. -/
structure Thread where
  node : Nat
  /-- The number of nodes before the last defect. -/
  countBefore : Nat
  /-- What the last mark says about open raw strings. -/
  hashes : Option Nat
  status : Status
  refuges : Option (List Refuge)
  deriving Inhabited

structure Parse where
  nodes : Array Node
  threads : Array Thread
  /-- The best tree of the whole source so far. -/
  finished : Option Tree
  acceptCount : Nat
  deriving Inhabited

/-- What does not change while a source is parsed. -/
structure Setting where
  table : Table
  input : Input
  /-- The mark that begins behind the white space at a place, if one of those that `valid` admits
  does: its symbol, where it begins and ends, and what it says about open raw strings. -/
  markAt? : (valid : Bits) → (hashes : Nat) → (pos : Nat) → Option (Nat × Nat × Nat × Nat)

/-! ## Limits -/

def threadLimit : Nat := 6
def threadOverflow : Nat := 4
def linkLimit : Nat := 8
def walkLimit : Nat := 64
def refugeDepth : Nat := 16
def costMargin : Nat := 1800

namespace Status

def isActive : Status → Bool
  | .active => true
  | _ => false

def isPaused : Status → Bool
  | .paused _ => true
  | _ => false

def isHalted : Status → Bool
  | .halted => true
  | _ => false

end Status

namespace Table
variable (t : Table)

/-- The state in which a parser looks for a place to go on. -/
def defectState : Nat := 0

def startState : Nat := 1

def stand (state : Nat) : Stand := t.stands.getD state default

/-- The actions for a symbol. Behind a defect every symbol can help to find a place to go on:
this is for the caller to try. -/
def entry (state symbol : Nat) : Entry :=
  if state = defectState then
    ⟨symbol, if t.grammar.extras.contains symbol then [.skipExtra] else [], none⟩
  else ((t.stand state).entries.find? (·.symbol = symbol)).getD ⟨symbol, [], none⟩

def entryFor (state : Nat) (kind : Kind) : Entry :=
  match kind with
  | .symbol s => t.entry state s
  | _ => ⟨0, [], none⟩

/-- The state behind a symbol. -/
def next (state symbol : Nat) : Nat :=
  match t.grammar.ruleOf? symbol with
  | some r => ((t.stand state).gotos.lookup r).getD defectState
  | none =>
    let e := t.entry state symbol
    match e.acts.getLast? with
    | some .shift | some .shiftRepeated => e.target.getD defectState
    | some .skipExtra => state
    | _ => defectState

end Table

namespace Parse

def start : Parse where
  nodes := #[⟨Table.startState, {}, [], 0, 0, 0⟩]
  threads := #[⟨0, 0, none, .active, none⟩]
  finished := none
  acceptCount := 0

variable (p : Parse)

def node (n : Nat) : Node := p.nodes.getD n default

def thread (v : Nat) : Thread := p.threads.getD v default

def head (v : Nat) : Node := p.node (p.thread v).node

def stateOf (v : Nat) : Nat := (p.head v).state

def placeOf (v : Nat) : Extent := (p.head v).place

def isActive (v : Nat) : Bool := (p.thread v).status.isActive

def setThread (v : Nat) (f : Thread → Thread) : Parse :=
  { p with threads := p.threads.modify v f }

def setStatus (v : Nat) (status : Status) : Parse := p.setThread v ({ · with status })

def halt (v : Nat) : Parse := p.setStatus v .halted

def remove (v : Nat) : Parse := { p with threads := p.threads.eraseIdxIfInBounds v }

/-- A new thread at a node, otherwise like another one. -/
def fork (v node : Nat) : Parse :=
  let t := p.thread v
  { p with threads := p.threads.push ⟨node, t.countBefore, t.hashes, .active, none⟩ }

def copy (v : Nat) : Parse :=
  { p with threads := p.threads.push { p.thread v with refuges := none } }

def replace (v w : Nat) : Parse :=
  if v = w then p
  else
    let t := p.thread v
    let refuges := t.refuges <|> (p.thread w).refuges
    ({ p with threads := p.threads.setIfInBounds w { t with refuges } }).remove v

/-- Goes on with a tree to a state. Without a tree, a defect begins here. -/
def push (v : Nat) (tree : Option Tree) (state : Nat) : Parse :=
  let before := (p.thread v).node
  let n := p.node before
  let new : Node := match tree with
    | none => { n with state, links := [⟨before, none⟩] }
    | some t =>
      { state, links := [⟨before, tree⟩]
        place := n.place + t.reach
        cost := n.cost + t.cost
        count := n.count + t.nodeCount
        weight := n.weight + t.label.weight }
  let index := p.nodes.size
  { p with
    nodes := p.nodes.push new
    threads := p.threads.modify v fun t =>
      { t with
        node := index
        countBefore := if tree.isNone then new.count else t.countBefore } }

/-! ## Links -/

def linkAlike (a b : Option Tree) : Bool :=
  match a, b with
  | none, none => true
  | some t, some u => t.alike u
  | _, _ => false

/-- Where a new link to a node belongs among the old ones. -/
inductive LinkPlace
  /-- It takes the place of an old link to the same node. -/
  | same (i : Nat)
  /-- The links behind it join those behind an old one. -/
  | joined (node : Nat)
  | new

def linkPlace (nodes : Array Node) (link : Link) : Nat → List Link → LinkPlace
  | _, [] => .new
  | i, old :: rest =>
    if linkAlike old.tree link.tree then
      let a := nodes.getD old.node default
      let b := nodes.getD link.node default
      if old.node = link.node then .same i
      else if a.state = b.state && a.place.chars = b.place.chars && a.cost = b.cost then
        .joined old.node
      else linkPlace nodes link (i + 1) rest
    else linkPlace nodes link (i + 1) rest

/-- Adds a link to the node of a number. -/
def addLink : Nat → Array Node → Nat → Link → Array Node
  | 0, nodes, _, _ => nodes
  | fuel + 1, nodes, n, link =>
    if link.node = n then nodes
    else
      let node := nodes.getD n default
      let before := nodes.getD link.node default
      let treeWeight := (link.tree.map (·.label.weight)).getD 0
      let weight := before.weight + treeWeight
      match linkPlace nodes link 0 node.links with
      | .same i =>
        let oldWeight := ((node.links[i]?.bind (·.tree)).map (·.label.weight)).getD 0
        if link.tree.isSome && oldWeight < treeWeight then
          nodes.setIfInBounds n { node with links := node.links.set i link, weight }
        else nodes
      | .joined m =>
        (before.links.foldl (fun nodes l => addLink fuel nodes m l) nodes).modify n
          fun node => { node with weight := max node.weight weight }
      | .new =>
        if linkLimit ≤ node.links.length then nodes
        else
          let count := before.count + (link.tree.map (·.nodeCount)).getD 0
          nodes.setIfInBounds n { node with
            links := node.links ++ [link]
            count := max node.count count
            weight := max node.weight weight }

def addLinks (n : Nat) (links : List Link) (nodes : Array Node) : Array Node :=
  links.foldl (fun nodes l => addLink (nodes.size + 1) nodes n l) nodes

def canMerge (v w : Nat) : Bool :=
  let a := p.head v
  let b := p.head w
  p.isActive v && p.isActive w && a.state = b.state && a.place.chars = b.place.chars &&
    a.cost = b.cost && (p.thread v).hashes.getD 0 = (p.thread w).hashes.getD 0

/-- Makes the second of two threads that can merge one with the first. -/
def merge (v w : Nat) (p : Parse) : Parse :=
  let n := (p.thread v).node
  let links := (p.head w).links
  let p := { p with nodes := addLinks n links p.nodes }
  let node := p.node n
  let p := if node.state = Table.defectState then
      p.setThread v ({ · with countBefore := node.count })
    else p
  p.remove w

/-- Makes two threads one if they are at the same place in the same state. -/
def mergeIfAlike (v w : Nat) (p : Parse) : Parse :=
  if p.canMerge v w then p.merge v w else p

/-! ## Going back -/

/-- A way back from a thread. -/
structure Walk where
  node : Nat
  trees : List Tree
  /-- The number of trees given up; those that may stand anywhere do not count. -/
  count : Nat

/-- What to do with a walk. -/
structure Verdict where
  /-- Whether its trees are wanted. -/
  takes : Bool
  /-- Whether it ends. -/
  ends : Bool

/-- The trees of a walk, and the thread at its end. -/
structure Slice where
  trees : List Tree
  thread : Nat

/-- Adds a slice behind those with the same end; there is a new thread for each new end. -/
def addSlice (v : Nat) (slices : List Slice) (w : Walk) (p : Parse) : List Slice × Parse :=
  match slices.reverse.find? fun s => (p.thread s.thread).node = w.node with
  | some same =>
    let behind := slices.reverse.takeWhile (·.thread ≠ same.thread)
    let before := slices.take (slices.length - behind.length)
    (before ++ [⟨w.trees, same.thread⟩] ++ behind.reverse, p)
  | none => (slices ++ [⟨w.trees, p.threads.size⟩], p.fork v w.node)

def Walk.follow (w : Walk) (l : Link) : Walk where
  node := l.node
  trees := match l.tree with
    | some t => t :: w.trees
    | none => w.trees
  count := match l.tree with
    | some t => if t.isExtra then w.count else w.count + 1
    | none => w.count + 1

/-- What has been done with the walks of one round. -/
structure Round (σ : Type) where
  memory : σ
  kept : List Walk := []
  added : List Walk := []
  slices : List Slice
  parse : Parse

/-- Takes a walk one link back. Where there are several links it goes the first way, and new
walks go the others as long as there are not too many. -/
def Round.step {σ : Type} (judge : σ → Node → Walk → σ × Verdict) (v : Nat) (left : Nat)
    (r : Round σ) (w : Walk) : Round σ :=
  let node := r.parse.node w.node
  let (memory, verdict) := judge r.memory node w
  let (slices, parse) :=
    if verdict.takes then addSlice v r.slices w r.parse else (r.slices, r.parse)
  let r := { r with memory, slices, parse }
  match node.links, verdict.ends with
  | [], _ | _, true => r
  | first :: others, false =>
    let used := r.kept.length + 1 + left + r.added.length
    let more := (others.take (walkLimit - used)).map w.follow
    { r with kept := r.kept ++ [w.follow first], added := r.added ++ more }

/-- One round: each walk goes one link back. -/
def Round.run {σ : Type} (judge : σ → Node → Walk → σ × Verdict) (v : Nat) :
    List Walk → Round σ → Round σ
  | [], r => r
  | w :: rest, r => run judge v rest (r.step judge v rest.length w)

/-- Goes back from a thread until all walks have ended. -/
def walkBack {σ : Type} (judge : σ → Node → Walk → σ × Verdict) (v : Nat) :
    Nat → List Walk → σ → List Slice → Parse → σ × List Slice × Parse
  | 0, _, memory, slices, p => (memory, slices, p)
  | _, [], memory, slices, p => (memory, slices, p)
  | fuel + 1, walks, memory, slices, p =>
    let r := Round.run judge v walks { memory, slices, parse := p }
    walkBack judge v fuel (r.kept ++ r.added) r.memory r.slices r.parse

/-- No way back has more links than there are nodes. -/
def back {σ : Type} (judge : σ → Node → Walk → σ × Verdict) (v : Nat) (memory : σ) (p : Parse) :
    σ × List Slice × Parse :=
  walkBack judge v (p.nodes.size + 1) [⟨(p.thread v).node, [], 0⟩] memory [] p

def popCount (v count : Nat) (p : Parse) : List Slice × Parse :=
  (p.back (fun (_ : Unit) _ w => ((), ⟨w.count = count, w.count = count⟩)) v ()).2

def popAll (v : Nat) (p : Parse) : List Slice × Parse :=
  (p.back (fun (_ : Unit) node _ => ((), ⟨node.links.isEmpty, false⟩)) v ()).2

/-- Gives up the defect that was read last, if the last tree is one. -/
def popDefect (v : Nat) (p : Parse) : List Tree × Parse :=
  let isDefect (t : Tree) : Bool := t.kind = .defect
  if (p.head v).links.any fun l => (l.tree.map isDefect).getD false then
    let judge (found : Bool) (_ : Node) (w : Walk) : Bool × Verdict :=
      match w.trees with
      | [] => (found, ⟨false, false⟩)
      | t :: _ => if !found && isDefect t then (true, ⟨true, true⟩) else (found, ⟨false, true⟩)
    let (_, slices, p) := p.back judge v false
    match slices with
    | s :: _ => (s.trees, p.replace s.thread v)
    | [] => ([], p)
  else ([], p)

/-- Notes the places to go back to behind a defect. -/
def noteRefuges (v : Nat) (p : Parse) : Parse :=
  let judge (found : List Refuge) (node : Node) (w : Walk) : List Refuge × Verdict :=
    if refugeDepth < w.count then (found, ⟨false, true⟩)
    else if (found.takeWhile (w.count ≤ ·.depth)).any fun f =>
        f.depth = w.count && f.state = node.state then (found, ⟨false, false⟩)
    else (⟨node.place, w.count, node.state⟩ :: found, ⟨false, false⟩)
  let (found, _, p) := p.back judge v []
  p.setThread v ({ · with refuges := some found.reverse })

end Parse
end ViewCases.Source
