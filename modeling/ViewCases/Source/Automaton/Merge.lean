import ViewCases.Source.Automaton.State
import ViewCases.Source.Clash

/-! States that differ only in what may come behind are made one, unless some symbol tells them
apart: then they stay different states. -/
namespace ViewCases.Source

/-- The states in groups. Each group becomes one state. -/
structure Grouping where
  members : Array (List Nat)
  groupOf : Array Nat
  deriving Inhabited

namespace Grouping

/-- The states of one core are one group. -/
def ofCores (states : Array State) : Grouping :=
  let (groups, _, groupOf) := states.foldl (fun (groups, index, groupOf) s =>
    let state := groupOf.size
    match index[s.core]? with
    | some g => (groups.modify g (state :: ·), index, groupOf.push g)
    | none =>
      (groups.push [state], index.insert s.core groups.size, groupOf.push groups.size))
    ((#[] : Array (List Nat)), ({} : Std.HashMap (List Nat) Nat), (#[] : Array Nat))
  ⟨groups.map List.reverse, groupOf⟩

/-- Keeps the first state and all that agree with it and with one another; the others leave
the group. -/
def part (differs : Nat → Nat → Bool) : Nat → List Nat → List Nat × List Nat
  | fuel + 1, s :: rest =>
    let (away, near) := rest.partition (differs s)
    let (kept, more) := part differs fuel near
    (s :: kept, away ++ more)
  | _, states => (states, [])

/-- Parts the groups from one on. States that leave a group form a new group at the end, which
is parted in its turn. -/
def split (differs : Array Nat → Nat → Nat → Bool) : Nat → Nat → Grouping → Bool → Grouping × Bool
  | 0, _, gs, changed => (gs, changed)
  | fuel + 1, g, gs, changed =>
    match gs.members[g]? with
    | none => (gs, changed)
    | some states =>
      match part (differs gs.groupOf) states.length states with
      | (_, []) => split differs fuel (g + 1) gs changed
      | (kept, away) =>
        let new := gs.members.size
        let gs : Grouping :=
          { members := (gs.members.setIfInBounds g kept).push away
            groupOf := away.foldl (fun table s => table.setIfInBounds s new) gs.groupOf }
        split differs fuel (g + 1) gs true

/-- Each group holds a state, so there are no more groups than states. -/
def splitAll (differs : Array Nat → Nat → Nat → Bool) (gs : Grouping) : Grouping × Bool :=
  split differs (gs.groupOf.size + 1) 0 gs false

/-- Parts the groups until nothing changes. -/
def settle (differs : Array Nat → Nat → Nat → Bool) : Nat → Grouping → Grouping
  | 0, gs => gs
  | fuel + 1, gs =>
    match gs.splitAll differs with
    | (gs, true) => settle differs fuel gs
    | (gs, false) => gs

end Grouping

/-- Whether two states act alike on every symbol that both admit. -/
def actAlike (groupOf : Array Nat) : List Entry → List Entry → Bool
  | a :: as, b :: bs =>
    if a.symbol < b.symbol then actAlike groupOf as (b :: bs)
    else if b.symbol < a.symbol then actAlike groupOf (a :: as) bs
    else
      a.acts == b.acts &&
        (match a.target, b.target with
          | some s, some t => groupOf.getD s 0 == groupOf.getD t 0
          | _, _ => true) &&
        actAlike groupOf as bs
  | _, _ => true
termination_by as bs => as.length + bs.length

/-- Whether two states lead to one group behind every symbol that both admit. -/
def leadAlike (groupOf : Array Nat) : List (Nat × Nat) → List (Nat × Nat) → Bool
  | a :: as, b :: bs =>
    if a.1 < b.1 then leadAlike groupOf as (b :: bs)
    else if b.1 < a.1 then leadAlike groupOf (a :: as) bs
    else groupOf.getD a.2 0 == groupOf.getD b.2 0 && leadAlike groupOf as bs
  | _, _ => true
termination_by as bs => as.length + bs.length

/-- What the merging of states depends on. -/
structure Merger where
  grammar : Grammar
  states : Array State
  /-- For each state, the symbols that it must not get from another one. -/
  barred : Array Bits
  /-- For each state, the states behind the symbols. -/
  exits : Array (List (Nat × Nat))

namespace Merger

/-- For each symbol, the tokens that displace it. -/
def displacing (g : Grammar) (c : Clash) : Array Bits :=
  (List.range g.tokens.size).foldl (fun table t =>
    (c.displaced t).toList.foldl (fun table u =>
      table.modify u (·.insert (Grammar.tokenSymbol t))) table)
    (Array.replicate g.terminalCount Bits.empty)

def make (g : Grammar) (c : Clash) (states : Array State) : Merger :=
  let displacing := displacing g c
  { grammar := g, states
    barred := states.map fun s => g.markSymbols.union (Bits.unionOf displacing s.valid)
    exits := states.map fun s =>
      (s.entries.filterMap fun e => e.target.map fun t => (e.symbol, t)) ++
        s.gotos.map fun (r, t) => (g.ruleSymbol r, t) }

variable (m : Merger)

def state (s : Nat) : State := m.states.getD s default

/-- Whether one state admits a symbol that the other one must not get. -/
def tokensApart (s t : Nat) : Bool :=
  let a := (m.state s).valid
  let b := (m.state t).valid
  (a.diff b).meets (m.barred.getD t .empty) || (b.diff a).meets (m.barred.getD s .empty)

def grouping : Grouping :=
  let (gs, _) := (Grouping.ofCores m.states).splitAll fun groupOf s t =>
    m.tokensApart s t || !actAlike groupOf (m.state s).entries (m.state t).entries
  gs.settle (fun groupOf s t => !leadAlike groupOf (m.exits.getD s []) (m.exits.getD t []))
    (m.states.size + 1)

/-- One state for a group; its targets are groups. -/
def united (gs : Grouping) (members : List Nat) : State :=
  let group (s : Nat) : Nat := gs.groupOf.getD s 0
  let states := members.map m.state
  let entries := states.foldl (fun table s => s.entries.foldl (fun table e =>
    table.setIfInBounds e.symbol (some { e with target := e.target.map group })) table)
    (Array.replicate m.grammar.terminalCount none)
  let gotos := states.foldl (fun table s => s.gotos.foldl (fun table (r, t) =>
    table.setIfInBounds r (some (r, group t))) table)
    (Array.replicate m.grammar.rules.size none)
  { core := (states.head?.map (·.core)).getD []
    valid := states.foldl (fun v s => v.union s.valid) .empty
    entries := entries.toList.filterMap id
    gotos := gotos.toList.filterMap id
    passesOnTo := states.head?.bind (·.passesOnTo) }

/-- The rule to which a state passes on the one part that was read, if it does nothing else. -/
def onlyPassesOnTo (s : State) : Option Nat :=
  if s.entries.any (·.target.isSome) then none else s.passesOnTo

/-- The state to go to in place of one that only passes a part on: the state behind the rule
that it passes the part on to. -/
def pastPassing (states : Array State) (gotos : List (Nat × Nat)) : Nat → Nat → Nat
  | 0, target => target
  | fuel + 1, target =>
    match (states[target]?.bind onlyPassesOnTo).bind fun r => gotos.lookup r with
    | some next => if next = target then target else pastPassing states gotos fuel next
    | none => target

/-- Leaves out the states that only pass a part on. -/
def shortened (states : Array State) (s : State) : State :=
  let past := pastPassing states s.gotos states.size
  { s with
    entries := s.entries.map fun e => { e with target := e.target.map past }
    gotos := s.gotos.map fun (r, t) => (r, past t) }

/-- The states of the parser. -/
def merged : Array State :=
  let gs := m.grouping
  let states := gs.members.map (m.united gs)
  states.map (shortened states)

end Merger
end ViewCases.Source
