import ViewCases.Source.Automaton.Merge

/-! The table of a parser: its states with what they do, and the tokens that are looked for in
each of them. State 0 is the one in which a parser looks for a place to go on behind a defect. -/
namespace ViewCases.Source

/-- A state of the table. -/
structure Stand where
  valid : Bits
  entries : List Entry
  gotos : List (Nat × Nat)
  /-- The tokens that are looked for; there can be more than the valid ones. -/
  mode : Bits
  deriving Inhabited

structure Table where
  grammar : Grammar
  lexicon : Lexicon
  stands : Array Stand
  reductions : Array Reduction
  deriving Inhabited

namespace Table

/-- For each symbol, the symbols that are valid together with it somewhere. -/
def companions (g : Grammar) (states : Array State) : Array Bits :=
  states.foldl (fun table s => s.valid.toList.foldl (fun table t =>
    table.modify t (·.union s.valid)) table)
    (Array.replicate g.terminalCount Bits.empty)

/-- The tokens that displace others only where both are valid, or not at all. -/
def harmless (g : Grammar) (c : Clash) (companions : Array Bits) : Bits :=
  let blanks (t : Nat) : Bits :=
    -- what is blank against the token
    Bits.ofList ((List.range g.tokens.size).filterMap fun u =>
      if (c.blank.getD u .empty).contains (Grammar.tokenSymbol t) then
        some (Grammar.tokenSymbol u)
      else none)
  Bits.ofList ((List.range g.tokens.size).filterMap fun t =>
    let displaced := ((c.onward.getD t .empty).union (c.blank.getD t .empty)).diff (blanks t)
    if (displaced.diff (companions.getD (Grammar.tokenSymbol t) .empty)).isEmpty then
      some (Grammar.tokenSymbol t)
    else none)

/-- The tokens that are looked for behind a defect: all that cannot hide a harmless one. -/
def landmarks (g : Grammar) (c : Clash) (companions : Array Bits) : Bits :=
  let harmless := harmless g c companions
  (List.range g.tokens.size).foldl (fun found t =>
    let symbol := Grammar.tokenSymbol t
    let hidden := ((c.displaced t).inter harmless).diff (companions.getD symbol .empty)
    if harmless.contains symbol || hidden.isEmpty then found.insert symbol else found)
    (.single Grammar.endSymbol)

/-- For each symbol, the tokens that must not be looked for together with it. -/
def apart (g : Grammar) (c : Clash) (companions : Array Bits) : Array Bits :=
  (List.range g.tokens.size).foldl (fun table t =>
    let symbol := Grammar.tokenSymbol t
    let own := (c.displaced t).union (c.shorter.getD t .empty)
    let more := (c.overlapping t).diff (companions.getD symbol .empty)
    (own.union more).toList.foldl (fun table u => table.modify u (·.insert symbol)) table)
    (Array.replicate g.terminalCount Bits.empty)

/-- Tokens that are looked for together. -/
structure Mode where
  tokens : Bits
  /-- The tokens that must not be looked for together with one of them. -/
  apart : Bits

def Mode.admits (m n : Mode) : Bool :=
  !((m.tokens.diff n.tokens).meets n.apart || (n.tokens.diff m.tokens).meets m.apart)

def Mode.union (m n : Mode) : Mode := ⟨m.tokens.union n.tokens, m.apart.union n.apart⟩

/-- Adds the tokens of a state to the first mode that admits them. -/
def place (modes : Array Mode) (m : Mode) : Nat × Array Mode :=
  match modes.findIdx? (·.admits m) with
  | some i => (i, modes.modify i (·.union m))
  | none => (modes.size, modes.push m)

def reachable (states : Array State) : Nat → List Nat → Array Bool → Array Bool
  | 0, _, seen => seen
  | _, [], seen => seen
  | fuel + 1, s :: todo, seen =>
    if seen.getD s true then reachable states fuel todo seen
    else
      match states[s]? with
      | none => seen
      | some state =>
        let next := state.entries.filterMap (·.target) ++ state.gotos.map (·.2)
        reachable states fuel (next ++ todo) (seen.setIfInBounds s true)

/-- States with many entries come first, and behind the first state. -/
def placingOrder (states : Array State) : List Nat :=
  let steps := states.foldl (fun n s => n + s.entries.length + s.gotos.length + 1) 1
  let seen := reachable states steps [0] (Array.replicate states.size false)
  let size (s : Nat) : Nat :=
    (states[s]?.map fun t => t.entries.length + t.gotos.length).getD 0
  let others := (List.range states.size).filterMap fun s =>
    if s ≠ 0 && seen.getD s false then some (size s, s) else none
  0 :: (others.mergeSort fun a b => b.1 ≤ a.1).map (·.2)

/-- The tokens that each state looks for. -/
def modesOf (g : Grammar) (apart : Array Bits) (landmarks : Bits) (states : Array State) :
    Array Bits :=
  let mode (tokens : Bits) : Mode := ⟨tokens, Bits.unionOf apart tokens⟩
  let tokens (s : Nat) : Bits := match states[s]? with
    | some state =>
      (g.tokensIn state.valid).union (state.valid.inter (.single Grammar.endSymbol))
    | none => .empty
  let (modes, places) := (placingOrder states).foldl (fun (modes, places) s =>
    let (i, modes) := place modes (mode (tokens s))
    (modes, places.setIfInBounds s i)) (#[mode landmarks], Array.replicate states.size 0)
  places.map fun i => (modes[i]?.map (·.tokens)).getD .empty

def ofGrammar (g : Grammar) : Table :=
  let lexicon := Lexicon.ofGrammar g
  let clash := Clash.ofGrammar g lexicon
  let workshop := Workshop.ofGrammar g
  let states := workshop.states
  let companions := companions g states
  let landmarks := landmarks g clash companions
  let merged := (Merger.make g clash states).merged
  let modes := modesOf g (apart g clash companions) landmarks merged
  let defect : Stand := ⟨landmarks.union g.markSymbols, [], [], landmarks⟩
  { grammar := g, lexicon, reductions := workshop.items.reductions
    stands := #[defect] ++ merged.mapIdx fun i s =>
      { valid := s.valid
        entries := s.entries.map fun e => { e with target := e.target.map (· + 1) }
        gotos := s.gotos.map fun (r, t) => (r, t + 1)
        mode := modes.getD i .empty } }

end Table
end ViewCases.Source
