import ViewCases.Source.Parse.Lookahead

/-! Steps of a thread: shifts and reductions. A reduction can go back in several ways, and each
of them goes on as a thread. -/
namespace ViewCases.Source.Parse

/-- Slices with the same end, put together. -/
def groupSlices : List Slice → List (Nat × List (List Tree))
  | [] => []
  | s :: rest =>
    match groupSlices rest with
    | (v, ts) :: more =>
      if s.thread = v then (v, s.trees :: ts) :: more else (s.thread, [s.trees]) :: (v, ts) :: more
    | [] => [(s.thread, [s.trees])]

variable (s : Setting)

/-- The best tree that the slices of one end give, and the trees that stand behind it because
they may stand anywhere. -/
def bestTree (r : Reduction) (slices : List (List Tree)) : Tree × List Tree :=
  let treeOf (trees : List Tree) : Tree × List Tree :=
    let (own, extras) := Tree.splitExtras trees
    (.ofChildren s.grammar (.symbol (s.grammar.ruleSymbol r.rule)) own r.aliases false, extras)
  match slices with
  | [] => treeOf []
  | first :: others =>
    let (tree, extras) := others.foldl (fun best trees =>
      let new := treeOf trees
      if best.1.losesTo new.1 then new else best) (treeOf first)
    (tree.addWeight r.weight, extras)

def pushAll (v state : Nat) (trees : List Tree) (p : Parse) : Parse :=
  trees.foldl (fun p t => p.push v (some t) state) p

/-- Builds a tree at each end of the slices. Threads beyond the limit are given up, and threads
that reach the same state at the same place become one. `removed` is the number of threads that
are gone. -/
def buildAt (v : Nat) (r : Reduction) (limit : Nat) :
    List (Nat × List (List Tree)) → Nat → Parse → Parse
  | [], _, p => p
  | (w, slices) :: rest, removed, p =>
    let w := w - removed
    if limit < w then buildAt v r limit rest (removed + 1) (p.remove w)
    else
      let (tree, extras) := bestTree s r slices
      let state := s.table.next (p.stateOf w) (s.grammar.ruleSymbol r.rule)
      let p := pushAll w state (tree :: extras) p
      match (List.range w).find? fun u => u ≠ v && p.canMerge u w with
      | some u => buildAt v r limit rest (removed + 1) (p.merge u w)
      | none => buildAt v r limit rest removed p

/-- Reduces in a thread. The threads that result come behind all others; the first of them is
told. -/
def reduce (v : Nat) (r : Reduction) (p : Parse) : Option Nat × Parse :=
  let before := p.threads.size
  let (slices, p) := p.popCount v r.count
  let halted := p.threads.foldl (fun n t => if t.status.isHalted then n + 1 else n) 0
  let p := buildAt s v r (threadLimit + threadOverflow + halted) (groupSlices slices) 0 p
  (if before < p.threads.size then some before else none, p)

/-- Takes the trees of a finished thread as the tree of the source, unless there is a better
one. The root takes in what stands around it. -/
def finish (v : Nat) (next : Tree) (p : Parse) : Parse :=
  let p := p.push v (some next) Table.startState
  let (slices, p) := p.popAll v
  let p := slices.foldl (fun p slice =>
    let (own, behind) := Tree.splitExtras slice.trees
    match own.getLast? with
    | none => p
    | some t =>
      let root := Tree.ofChildren s.grammar t.kind (own.dropLast ++ t.children ++ behind)
        t.label.aliases false
      let isBetter := (p.finished.map (·.losesTo root)).getD true
      { p with
        acceptCount := p.acceptCount + 1
        finished := if isBetter then some root else p.finished }) p
  let p := match slices with
    | slice :: _ => p.remove slice.thread
    | [] => p
  p.halt v

end ViewCases.Source.Parse
