import ViewCases.Source.Automaton.Item

/-! The states of a parser: what it can have read, with what may come behind. A state decides
what to do with each next symbol; where precedence does not settle a conflict, it lists several
actions, and all of them are tried. -/
namespace ViewCases.Source

/-- What to do with a next symbol. -/
inductive Act
  | shift
  /-- A shift that goes on with a repetition, where the repetition can also be closed. -/
  | shiftRepeated
  /-- Builds what the reduction of this number says. -/
  | reduce (r : Nat)
  | accept
  /-- The symbol may stand anywhere. -/
  | skipExtra
  deriving DecidableEq, Repr, Inhabited

def Act.isShift : Act → Bool
  | .shift | .shiftRepeated => true
  | _ => false

/-- The actions of a state for one symbol, and the state to which a shift leads. -/
structure Entry where
  symbol : Nat
  acts : List Act
  target : Option Nat
  deriving DecidableEq, Repr, Inhabited

/-- An item with the symbols that can come behind its production. -/
structure Ahead where
  item : Nat
  ahead : Bits
  deriving DecidableEq, Hashable, Repr, Inhabited

/-- The items that a state is for, in ascending order. -/
abbrev Kernel := List Ahead

structure State where
  /-- The items of the kernel. -/
  core : List Nat
  /-- The symbols that can come next. -/
  valid : Bits
  /-- One entry for each of them, in ascending order. -/
  entries : List Entry
  /-- The states behind the rules that can come next. -/
  gotos : List (Nat × Nat)
  /-- The rule to which all reductions of the state pass on the one part that was read. -/
  passesOnTo : Option Nat
  deriving Inhabited

namespace Kernel

/-- Puts equal items of a list in ascending order together. -/
def merge : List Ahead → Kernel
  | [] => []
  | a :: rest =>
    match merge rest with
    | b :: more =>
      if a.item = b.item then ⟨a.item, a.ahead.union b.ahead⟩ :: more else a :: b :: more
    | [] => [a]

def ofList (l : List Ahead) : Kernel :=
  merge (l.mergeSort fun a b => a.item ≤ b.item)

end Kernel

/-- What can begin where some rule can begin: a rule, the symbols that its surroundings admit
behind it, and whether what comes behind the first rule can come behind it too. -/
structure Opening where
  rule : Nat
  ahead : Bits
  isLast : Bool
  deriving Inhabited

namespace Opening

/-- A rule that was found to begin at a place. -/
structure Visit where
  rule : Nat
  ahead : Bits
  isLast : Bool

/-- Follows the first symbols of rules until nothing new is found. -/
def explore (g : Grammar) (firsts : Array Bits) :
    Nat → List Visit → Array (Option (Bits × Bool)) → Array (Option (Bits × Bool))
  | 0, _, found => found
  | _, [], found => found
  | fuel + 1, v :: todo, found =>
    let old := found.getD v.rule none
    let (ahead, isLast) := old.getD (.empty, false)
    let next := (ahead.union v.ahead, isLast || v.isLast)
    if old = some next then explore g firsts fuel todo found
    else
      let more := (g.productions v.rule).filterMap fun p =>
        match p.steps with
        | [s] => (g.ruleOf? s.symbol).map fun r => ⟨r, v.ahead, v.isLast⟩
        | s :: t :: _ =>
          (g.ruleOf? s.symbol).map fun r => ⟨r, firsts.getD t.symbol .empty, false⟩
        | [] => none
      explore g firsts fuel (more ++ todo) (found.setIfInBounds v.rule (some next))

/-- More visits than any rule needs. -/
def visitLimit : Nat := 1000000

/-- All that can begin where the rule can begin. -/
def ofRule (g : Grammar) (firsts : Array Bits) (rule : Nat) : List Opening :=
  let found := explore g firsts visitLimit [⟨rule, .empty, true⟩]
    (Array.replicate g.rules.size none)
  (List.range g.rules.size).filterMap fun r =>
    (found.getD r none).map fun (ahead, isLast) => ⟨r, ahead, isLast⟩

end Opening

/-- What the states of one grammar are made from. -/
structure Workshop where
  grammar : Grammar
  items : Items
  firsts : Array Bits
  openings : Array (List Opening)
  /-- The symbols in the order in which the states behind them are numbered. -/
  symbolOrder : List Nat

namespace Workshop

def ofGrammar (g : Grammar) : Workshop :=
  let firsts := g.firsts
  let marks := (List.range Mark.all.length).map (g.tokens.size + 1 + ·)
  let tokens := (List.range g.tokens.size).map Grammar.tokenSymbol
  let rules := (List.range g.rules.size).map g.ruleSymbol
  { grammar := g, items := .ofGrammar g, firsts
    openings := ((List.range g.rules.size).map (Opening.ofRule g firsts)).toArray
    symbolOrder := marks ++ tokens ++ rules }

variable (w : Workshop)

/-- For each rule, what can come behind it if it begins here. -/
def closure (kernel : Kernel) : Array Bits :=
  kernel.foldl (fun table a =>
    let item := w.items.get a.item
    match item.next with
    | none => table
    | some (symbol, _) =>
      match w.grammar.ruleOf? symbol with
      | none => table
      | some r =>
        let behind := item.behind.getD a.ahead
        (w.openings.getD r []).foldl (fun table o =>
          table.modify o.rule fun s =>
            let s := s.union o.ahead
            if o.isLast then s.union behind else s) table)
    (Array.replicate w.grammar.rules.size Bits.empty)

/-- The items at the beginnings of the rules of a closure. -/
def openedItems (closure : Array Bits) : List Ahead :=
  (List.range closure.size).foldr (fun r found =>
    let ahead := closure.getD r .empty
    if ahead.isEmpty then found
    else (w.items.starts.getD r []).foldr (fun i found => ⟨i, ahead⟩ :: found) found) []

/-- For each symbol, the items behind it. -/
def behindSymbols (items : List Ahead) : Array (List Ahead) :=
  items.foldl (fun table a =>
    match (w.items.get a.item).next with
    | none => table
    | some (symbol, succ) => table.modify symbol fun l => ⟨succ, a.ahead⟩ :: l)
    (Array.replicate (w.grammar.terminalCount + w.grammar.rules.size) [])

/-- The complete items that can be reduced before a symbol: those of the highest level. -/
def reducible (complete : List Ahead) (symbol : Nat) : List Item :=
  complete.foldl (fun found a =>
    if !a.ahead.contains symbol then found
    else
      let item := w.items.get a.item
      match found with
      | [] => [item]
      | other :: _ =>
        if other.key.level < item.key.level then [item]
        else if item.key.level = other.key.level then found ++ [item]
        else found) []

def actOf (item : Item) : Act :=
  if item.key.rule = w.grammar.rules.size then .accept else .reduce item.reduction

/-- What is left of a shift that competes with reductions of one level. `rivals` are the items
of the kernel that can go on with the symbol: the shift wins if they are of higher level, and
among equals the sides of the reductions decide. -/
def settle (reductions : List Item) (rivals : List Item) (acts : List Act) : List Act :=
  let level := (reductions.head?.map (·.key.level)).getD 0
  let higher := rivals.any fun i => level < i.key.level
  let lower := rivals.any fun i => i.key.level < level
  let all (s : Side) : Bool := reductions.all fun i => i.key.side = some s
  if higher && !lower then [.shift]
  else if lower && !higher then acts
  else if !higher && !lower && all .left then acts
  else if !higher && !lower && all .right then [.shift]
  else acts ++ [.shift]

/-- Drops what equals its neighbour before. -/
def withoutRuns : List Act → List Act
  | a :: b :: rest => if a = b then withoutRuns (b :: rest) else a :: withoutRuns (b :: rest)
  | l => l

/-- The actions for a symbol. In a repetition that could go on in two ways the longer one is
taken. -/
def actsFor (kernel : List Ahead) (complete : List Ahead) (canShift : Bool) (symbol : Nat) :
    List Act :=
  let reductions := w.reducible complete symbol
  let acts := reductions.map w.actOf
  if !canShift then
    if acts.isEmpty && w.grammar.extras.contains symbol then [.skipExtra] else withoutRuns acts
  else if acts.isEmpty then [.shift]
  else
    let onward := (kernel.map fun a => w.items.get a.item).filter fun i =>
      match i.next with
      | some (s, _) => i.key.done ≠ 0 && (w.firsts.getD s .empty).contains symbol
      | none => false
    let own (i : Item) : Bool := i.key.rule ≠ w.grammar.rules.size
    let involved := (onward.filter own).map (·.key.rule) ++
      (complete.filter fun a => a.ahead.contains symbol).filterMap fun a =>
        let i := w.items.get a.item
        if own i then some i.key.rule else none
    match involved with
    | r :: rest =>
      if w.grammar.isRepetition.getD r false && rest.all (· = r) then acts ++ [.shiftRepeated]
      else withoutRuns (settle reductions onward acts)
    | [] => withoutRuns (settle reductions onward acts)

/-- The rule to which complete items pass on the one part that was read, if they all do. -/
def passesOnTo (complete : List Ahead) : Option Nat :=
  match complete.map fun a => (w.items.get a.item).key with
  | k :: rest =>
    if k.passesOn && rest.all fun j => j.passesOn && j.rule = k.rule then some k.rule else none
  | [] => none

/-- What is known of a state before the states behind it have numbers. -/
structure Sketch where
  complete : List Ahead
  valid : Bits
  /-- The symbols that can come next, with the items behind them. -/
  exits : List (Nat × Kernel)

def sketch (kernel : Kernel) : Sketch :=
  let items := kernel ++ w.openedItems (w.closure kernel)
  let complete := (items.filter fun a => (w.items.get a.item).isComplete).mergeSort fun a b =>
    (w.items.get a.item).precedes (w.items.get b.item)
  let behind := w.behindSymbols items
  let exits := w.symbolOrder.filterMap fun s =>
    match behind.getD s [] with
    | [] => none
    | l => some (s, Kernel.ofList l)
  let shifted := exits.foldl (fun v (s, _) =>
    if s < w.grammar.terminalCount then v.insert s else v) w.grammar.extras
  { complete, exits
    valid := complete.foldl (fun v a => v.union a.ahead) shifted }

/-- The state of a kernel. `exits` has the number of the state behind each symbol. -/
def stateOf (kernel : Kernel) (s : Sketch) (exits : List (Nat × Nat)) : State :=
  let targets := exits.foldl (fun table (symbol, target) =>
    table.setIfInBounds symbol (some target)) (Array.replicate w.grammar.terminalCount none)
  let canShift := exits.foldl (fun v (symbol, _) =>
    if symbol < w.grammar.terminalCount then v.insert symbol else v) Bits.empty
  { core := kernel.map (·.item)
    valid := s.valid
    entries := s.valid.toList.map fun symbol =>
      let acts := w.actsFor kernel s.complete (canShift.contains symbol) symbol
      ⟨symbol, acts, if acts.any (·.isShift) then targets.getD symbol none else none⟩
    gotos := exits.filterMap fun (symbol, target) =>
      (w.grammar.ruleOf? symbol).map fun r => (r, target)
    passesOnTo := w.passesOnTo s.complete }

/-- The states while they are found. -/
structure Search where
  kernels : Array Kernel
  index : Std.HashMap Kernel Nat
  states : Array State

def Search.number (s : Search) (k : Kernel) : Nat × Search :=
  match s.index[k]? with
  | some n => (n, s)
  | none => (s.kernels.size, { s with
      kernels := s.kernels.push k, index := s.index.insert k s.kernels.size })

/-- Makes the states in the order in which their kernels were found. -/
def search : Nat → Search → Search
  | 0, s => s
  | fuel + 1, s =>
    match s.kernels[s.states.size]? with
    | none => s
    | some kernel =>
      let sketch := w.sketch kernel
      let (exits, s) := sketch.exits.foldl (fun (exits, s) (symbol, k) =>
        let (n, s) := s.number k
        ((symbol, n) :: exits, s)) ([], s)
      let state := w.stateOf kernel sketch exits.reverse
      search fuel { s with states := s.states.push state }

/-- More states than any grammar has that a parser is made for. -/
def stateLimit : Nat := 1000000

/-- All states; the first is the one before a source. -/
def states : Array State :=
  let start : Kernel := [⟨w.items.start, .single Grammar.endSymbol⟩]
  (w.search stateLimit ⟨#[start], ({} : Std.HashMap Kernel Nat).insert start 0, #[]⟩).states

end Workshop
end ViewCases.Source
