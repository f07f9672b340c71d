import ViewCases.Source.Parse.Compare
import ViewCases.Source.Parse.Reduce

/-! What a thread does at a defect: it supposes a token that is missing, it goes back to a place
where the next tree fits, or it skips that tree. Which of them was best shows later. -/
namespace ViewCases.Source.Parse

variable (s : Setting)

/-- The symbols for which actions are sought; symbol 0 asks for those of any symbol. -/
def soughtSymbols (state symbol : Nat) : List Nat :=
  if symbol ≠ Grammar.endSymbol then [symbol]
  else (s.table.stand state).valid.toList.filter (· ≠ Grammar.endSymbol)

/-- Whether a state can shift one of the symbols, and the reductions that it can make before
one. Of reductions with equal result only the first counts. -/
def potential (state : Nat) (symbols : List Nat) : Bool × List Reduction :=
  symbols.foldl (fun found symbol => (s.table.entry state symbol).acts.foldl
    (fun (shifts, reductions) act =>
      match act with
      | .shift => (true, reductions)
      | .reduce n =>
        let r := s.table.reductions.getD n default
        if 0 < r.count && !reductions.any fun q => q.rule = r.rule && q.count = r.count then
          (shifts, reductions ++ [r])
        else (shifts, reductions)
      | _ => (shifts, reductions)) found) (false, [])

/-- Makes all reductions of a thread and of the threads behind `first` that result, and tells
whether one of them can shift the symbol. -/
def reduceAll (start first symbol : Nat) : Nat → Nat → Nat → Bool → Parse → Bool × Parse
  | 0, _, _, shifts, p => (shifts, p)
  | fuel + 1, round, v, shifts, p =>
    let count := p.threads.size
    if count ≤ v then (shifts, p)
    else
      match (List.range v).find? fun w => first ≤ w && p.canMerge w v with
      | some w => reduceAll start first symbol fuel (round + 1) v shifts (p.merge w v)
      | none =>
        let state := p.stateOf v
        let (canShift, reductions) := potential s state (soughtSymbols s state symbol)
        let (result, p) := reductions.foldl (fun (_, p) r => reduce s v r p)
          ((none : Option Nat), p)
        let next := if v = start then count else v + 1
        match canShift, result with
        | true, _ => reduceAll start first symbol fuel (round + 1) next true p
        | false, some w =>
          if round < threadLimit then
            reduceAll start first symbol fuel (round + 1) v shifts (p.replace w v)
          else
            let p := if symbol ≠ Grammar.endSymbol then p.remove v else p
            reduceAll start first symbol fuel (round + 1) next shifts p
        | false, none =>
          let p := if symbol ≠ Grammar.endSymbol then p.remove v else p
          reduceAll start first symbol fuel (round + 1) next shifts p

/-- More rounds than reductions can make threads. -/
def roundLimit : Nat := 100000

def reduceForAll (v symbol : Nat) (p : Parse) : Bool × Parse :=
  reduceAll s v p.threads.size symbol roundLimit 0 v false p

/-- Supposes a token that is missing: the first one behind which the next tree can be reached. -/
def supposeMissing (v : Nat) (next : Tree) : List Nat → Parse → Bool × Parse
  | [], p => (false, p)
  | symbol :: rest, p =>
    let state := p.stateOf v
    let behind := s.table.next state symbol
    let reduces := match (s.table.entryFor behind next.kind).acts with
      | .reduce _ :: _ => true
      | _ => false
    if behind = Table.defectState || behind = state || !reduces then
      supposeMissing v next rest p
    else
      let w := p.threads.size
      let p := (p.copy v).push w (some (.missing s.grammar symbol)) behind
      let nextSymbol := match next.kind with
        | .symbol n => n
        | _ => Grammar.endSymbol
      match reduceForAll s w nextSymbol p with
      | (true, p) => (true, p)
      | (false, p) => supposeMissing v next rest p

/-- Begins a defect in the thread `v` and in those from `first` up to `last`, each of which may
suppose one missing token before. -/
def beginDefects (v first last : Nat) (next : Tree) : Nat → Nat → Bool → Parse → Parse
  | 0, _, _, p => p
  | fuel + 1, w, supposed, p =>
    if last ≤ w then p
    else
      let (supposed, p) :=
        if supposed then (true, p)
        else
          let symbols := (s.table.stand (p.stateOf w)).valid.toList.filter
            (· ≠ Grammar.endSymbol)
          supposeMissing s w next symbols p
      let p := p.push w none Table.defectState
      beginDefects v first last next fuel (if w = v then first else w + 1) supposed p

/-- Goes back to a refuge. What is given up becomes a defect there. The end of each thread that
resulted is told. -/
def returnTo (v depth state : Nat) (p : Parse) : Bool × Parse :=
  let (slices, p) := p.popCount v depth
  let (found, p) := slices.foldl (fun ((found : Option Nat), (p : Parse)) slice =>
    let w := slice.thread
    if found = some w then (found, p)
    else if p.stateOf w ≠ state then (found, p.halt w)
    else
      let (defect, p) := p.popDefect w
      let trees := (match defect with
        | d :: _ => d.children
        | [] => []) ++ slice.trees
      let (own, extras) := Tree.splitExtras trees
      let p := match own with
        | [] => p
        | _ => p.push w (some (.ofChildren s.grammar .defect own [] true)) state
      (some w, pushAll w state extras p)) ((none : Option Nat), p)
  (found.isSome, p)

/-- Goes back to the first refuge at which the next tree fits, unless that costs too much. -/
def seekRefuge (v : Nat) (next : Tree) (place : Extent) (cost : Nat) (isBehind : Bool)
    (threadCount : Nat) : List Refuge → Parse → Bool × Parse
  | [], p => (false, p)
  | r :: rest, p =>
    let isTaken := (List.range threadCount).any fun w =>
      p.stateOf w = r.state && (p.placeOf w).chars = place.chars
    if r.state = Table.defectState || r.place.chars = place.chars || isTaken then
      seekRefuge v next place cost isBehind threadCount rest p
    else
      let lost := place - r.place
      let newCost := cost + r.depth * Tree.skippedTreeCost +
        lost.bytes * Tree.skippedByteCost + lost.rows * Tree.skippedRowCost
      let (beaten, p) := hasBetter v false newCost p
      if beaten then (false, p)
      else if (s.table.entryFor r.state next.kind).acts.isEmpty then
        seekRefuge v next place cost isBehind threadCount rest p
      else
        match returnTo s v (r.depth + if isBehind then 1 else 0) r.state p with
        | (true, p) => (true, p)
        | (false, p) => seekRefuge v next place cost isBehind threadCount rest p

/-- Gives up the threads from one on that are not active. -/
def dropInactive (first : Nat) (p : Parse) : Parse :=
  { p with threads := p.threads.extract 0 first ++
      (p.threads.extract first p.threads.size).filter (·.status.isActive) }

/-- Skips a tree: it becomes part of the defect. -/
def skipTree (v : Nat) (next : Tree) (isBehind : Bool) (p : Parse) : Parse :=
  let isExtra := match next.kind with
    | .symbol n => next.isExtra || s.grammar.extras.contains n
    | _ => next.isExtra
  let next := next.withExtra isExtra
  let skipped := Tree.ofChildren s.grammar .skipped [next] [] false
  let (skipped, p) :=
    if !isBehind then (skipped, p)
    else
      let (slices, p) := p.popCount v 1
      match slices with
      | slice :: _ =>
        let p := { p with threads := p.threads.extract 0 (slice.thread + 1) }
        (Tree.ofChildren s.grammar .skipped (slice.trees ++ [skipped]) [] false,
          p.replace slice.thread v)
      | [] => (skipped, p)
  let p := p.push v (some skipped) Table.defectState
  match next.label.hashes with
  | some h => p.setThread v ({ · with hashes := some h })
  | none => p

/-- Looks for a way on at a defect. Skipping the next tree is tried too unless it is pointless. -/
def recover (v : Nat) (next : Tree) (p : Parse) : Parse :=
  let threadCount := p.threads.size
  let place := p.placeOf v
  let (count, p) := countSince v p
  let cost := p.costOf v
  let isBehind := 0 < count
  let refuges := match next.kind with
    | .symbol _ => ((p.thread v).refuges).getD []
    | _ => []
  let (returned, p) := seekRefuge s v next place cost isBehind threadCount refuges p
  let p := dropInactive threadCount p
  if next.kind = .symbol Grammar.endSymbol then
    finish s v next (p.push v (some (.ofChildren s.grammar .defect [] [] false)) Table.startState)
  else if returned && threadLimit < p.threads.size then p.halt v
  else
    let hashes := (p.thread v).hashes.getD 0
    if returned && (next.label.hashes.getD hashes) ≠ hashes then p.halt v
    else
      let reach := next.reach
      let newCost := cost + Tree.skippedTreeCost + reach.bytes * Tree.skippedByteCost +
        reach.rows * Tree.skippedRowCost
      let (beaten, p) := hasBetter v false newCost p
      let othersGoOn := (List.range p.threads.size).any fun w => w ≠ v && p.isActive w
      if beaten || (next.kind = .defect && othersGoOn) then p.halt v
      else skipTree s v next isBehind p

/-- Begins a defect. All ways to go on before it become one thread. -/
def handleDefect (v : Nat) (next : Tree) (p : Parse) : Parse :=
  let first := p.threads.size
  let (_, p) := reduceForAll s v Grammar.endSymbol p
  let last := p.threads.size
  let p := beginDefects s v first last next (last + 1) v false p
  let p := (List.range (last - first)).foldl (fun p _ => p.mergeIfAlike v first) p
  recover s v next (p.noteRefuges v)

end ViewCases.Source.Parse
