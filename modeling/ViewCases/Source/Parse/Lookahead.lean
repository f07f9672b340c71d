import ViewCases.Source.Parse.Basic

/-! The tree that comes next: a mark or a token that the state of a thread looks for, or else any
one that there is. What is none becomes a defect. -/
namespace ViewCases.Source

namespace Setting
variable (s : Setting)

def grammar : Grammar := s.table.grammar

/-- A byte order mark before a source is white space. -/
def byteOrderMark : Char := '\uFEFF'

/-- Where reading begins. -/
def readingPlace (pos : Nat) : Nat :=
  if pos = 0 && (s.input.tailAt 0).head? = some byteOrderMark then 1 else pos

/-- What was read at a place. -/
structure Found where
  symbol : Nat
  start : Nat
  stop : Nat
  hashes : Option Nat

/-- What a reader looks for. -/
structure Wanted where
  tokens : Bits
  marks : Bits

def wantedIn (state : Nat) : Wanted :=
  let stand := s.table.stand state
  ⟨stand.mode, stand.valid⟩

/-- A mark, or else a token. A mark without characters counts only if `admitsEmpty` says so of
its symbol. -/
def readOne (w : Wanted) (hashes : Nat) (admitsEmpty : Nat → Bool) (pos : Nat) :
    Found ⊕ (Nat × Nat) :=
  let place := s.readingPlace pos
  let mark := match s.markAt? w.marks hashes place with
    | some (symbol, start, stop, h) =>
      if pos < stop || h ≠ hashes || admitsEmpty symbol then some (symbol, start, stop, h)
      else none
    | none => none
  match mark with
  | some (symbol, start, stop, h) => .inl ⟨symbol, start, stop, some h⟩
  | none =>
    match s.table.lexicon.scan w.tokens (w.tokens.contains Grammar.endSymbol)
        (s.input.classesAt place) place with
    | .token t start stop => .inl ⟨Grammar.tokenSymbol t, start, stop, none⟩
    | .finish pos => .inl ⟨Grammar.endSymbol, pos, pos, none⟩
    | .nothing start reached => .inr (start, reached)

/-- Passes characters that no token begins with. They go as far as `stop` at least. -/
def passDefect (hashes : Nat) : Nat → Nat → Nat
  | 0, stop => stop
  | fuel + 1, stop =>
    match s.readOne (s.wantedIn Table.defectState) hashes (fun _ => false) stop with
    | .inl _ => stop
    | .inr (_, reached) =>
      if reached ≠ stop then passDefect hashes fuel reached
      else if s.input.size ≤ stop then stop
      else passDefect hashes fuel (stop + 1)

def leafOf (place : Nat) (f : Found) : Tree :=
  .leaf s.grammar (.symbol f.symbol) (s.input.between place f.start)
    (s.input.between f.start f.stop) f.hashes

/-- The tree of characters that no token begins with, from `start` on. Some were tried already,
and at least one belongs to the tree. -/
def defectOf (hashes place start reached : Nat) : Tree :=
  let stop := s.passDefect hashes (s.input.size + 1)
    (if reached = start then start + 1 else reached)
  .leaf s.grammar .defect (s.input.between place start) (s.input.between start stop) none

/-- The tree behind a place. -/
def lookahead (state hashes : Nat) (admitsEmpty : Nat → Bool) (place : Nat) : Tree :=
  let own :=
    if state = Table.defectState then none
    else
      match s.readOne (s.wantedIn state) hashes admitsEmpty place with
      | .inl f => some f
      | .inr _ => none
  match own with
  | some f => s.leafOf place f
  | none =>
    match s.readOne (s.wantedIn Table.defectState) hashes (fun _ => false) place with
    | .inl f => s.leafOf place f
    | .inr (start, reached) => s.defectOf hashes place start reached

end Setting

namespace Parse

/-- Whether a thread has read anything since its last defect. -/
def hasAdvanced (p : Parse) (countBefore : Nat) : Nat → Nat → Bool
  | 0, _ => false
  | fuel + 1, n =>
    let node := p.node n
    match node.links with
    | ⟨before, some t⟩ :: _ =>
      if 0 < t.reach.chars then true
      else if countBefore < node.count && t.cost = 0 then hasAdvanced p countBefore fuel before
      else false
    | _ => false

/-- The tree that comes next for a thread. A mark without characters comes only where something
has been read since the last defect, and where it leads on. -/
def lookahead (s : Setting) (p : Parse) (v : Nat) : Tree :=
  let t := p.thread v
  let node := p.head v
  let admitsEmpty (symbol : Nat) : Bool :=
    (node.cost = 0 || p.hasAdvanced t.countBefore p.nodes.size t.node) &&
      s.table.next node.state symbol ≠ node.state
  s.lookahead node.state (t.hashes.getD 0) admitsEmpty node.place.chars

end Parse
end ViewCases.Source
