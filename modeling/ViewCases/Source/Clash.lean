import ViewCases.Source.Lexicon

/-! Which kinds of tokens can be mistaken for one another. Two states of a parser may look for
tokens alike only where this does not matter. -/
namespace ViewCases.Source

/-- How a token can meet each other token. All sets are sets of token symbols, and there is one
for each token. -/
structure Clash where
  /-- The same text can be both, and it counts as the token. -/
  same : Array Bits
  /-- The token can match white space before the other one. -/
  blank : Array Bits
  /-- The token can be longer than the other one. -/
  longer : Array Bits
  /-- The token can be longer, by characters that can also come behind the other one. -/
  onward : Array Bits
  /-- The token ends where the other one would go on. -/
  shorter : Array Bits
  deriving Inhabited

namespace Clash

def none (tokenCount : Nat) : Clash :=
  let sets := Array.replicate tokenCount Bits.empty
  ⟨sets, sets, sets, sets, sets⟩

def addTo (sets : Array Bits) (t u : Nat) : Array Bits :=
  sets.modify t (·.insert (Grammar.tokenSymbol u))

/-- Two tokens that are read at the same time, with the state of each automaton. -/
structure Pair where
  left : Nat
  right : Nat
  deriving BEq

/-- The tokens that are compared. -/
structure Contest where
  left : Nat
  right : Nat

namespace Contest

def rival (c : Contest) (t : Nat) : Nat := if t = c.left then c.right else c.left

def stateOf (c : Contest) (p : Pair) (t : Nat) : Nat := if t = c.left then p.left else p.right

variable (l : Lexicon) (c : Contest) (p : Pair)

/-- The tokens that match up to a pair of states. -/
def completed : List Nat :=
  [c.left, c.right].filter fun t => (l.recognizer t).acceptsIn (c.stateOf p t)

/-- The one of them that counts. -/
def winner : Option Nat :=
  match c.completed l p with
  | [t, u] => some (if l.prefers t u then t else u)
  | [t] => some t
  | _ => Option.none

def mayLead : Bool :=
  [c.left, c.right].any fun t => (l.recognizer t).leadsIn (c.stateOf p t)

/-- The highest rank of what a character can go on with, white space included, and whether
it can only be white space. -/
def onward (cls : Nat) : Int × Bool :=
  let inside := [c.left, c.right].filter fun t =>
    (l.recognizer t).movesInside (c.stateOf p t) cls
  let ranks := inside.map l.rank
  let ranks := if c.mayLead l p && Charset.blank.contains cls then 0 :: ranks else ranks
  (ranks.foldl max (ranks.headD 0), inside.isEmpty)

/-- What a character shows with which one of the tokens cannot go on: whether a match of that
one counts against the other one. -/
def note (followers : Array Charset) (cls : Nat) (next : Pair) (clash : Clash) : Clash :=
  match c.winner l p with
  | Option.none => clash
  | some t =>
    let u := c.rival t
    if c.stateOf next t ≠ 0 || c.stateOf next u = 0 then clash
    else
      let (rank, isBlankOnly) := c.onward l p cls
      if Lexicon.goesOn (l.rank t) rank isBlankOnly (c.mayLead l p) false then
        { clash with
          longer := addTo clash.longer u t
          onward := if (followers.getD t default).contains cls then addTo clash.onward u t
            else clash.onward }
      else { clash with shorter := addTo clash.shorter t u }

/-- What the pair of states itself shows. -/
def settle (clash : Clash) : Clash :=
  let done := c.completed l p
  let clash :=
    if c.mayLead l p then
      { clash with blank := done.foldl (fun s t => addTo s t (c.rival t)) clash.blank }
    else clash
  match done, c.winner l p with
  | [_, _], some t => { clash with same := addTo clash.same t (c.rival t) }
  | _, _ => clash

/-- Compares the tokens in all pairs of states that can be reached together and in which both
can still come. -/
def compare (followers : Array Charset) : Nat → List Pair → List Pair → Clash → Clash
  | 0, _, _, clash => clash
  | _, [], _, clash => clash
  | fuel + 1, p :: todo, seen, clash =>
    let left := l.recognizer c.left
    let right := l.recognizer c.right
    let both := (left.exitsOf p.left).inter (right.exitsOf p.right)
    let shown := if (c.completed l p).isEmpty then both
      else (left.exitsOf p.left).union (right.exitsOf p.right)
    let (todo, seen, clash) := shown.classes.toList.foldl
      (fun (todo, seen, clash) cls =>
        let next : Pair := ⟨left.move p.left cls, right.move p.right cls⟩
        if !both.contains cls then (todo, seen, c.note l p followers cls next clash)
        else if seen.contains next then (todo, seen, clash)
        else (next :: todo, next :: seen, clash))
      (todo, seen, c.settle l p clash)
    compare followers fuel todo seen clash

end Contest

/-- The characters that can come behind each token. -/
def followers (g : Grammar) (l : Lexicon) : Array Charset :=
  let firsts := g.firsts
  let lasts := g.lasts
  let behind := g.rules.foldl (fun table ps => ps.foldl (fun table p =>
    (p.steps.zip p.steps.tail).foldl (fun table (a, b) =>
      (lasts.getD a.symbol .empty).toList.foldl (fun table t =>
        table.modify t (·.union (firsts.getD b.symbol .empty))) table) table) table)
    (Array.replicate g.terminalCount Bits.empty)
  let extras := g.tokensIn g.extras
  let behind := behind.mapIdx fun t s =>
    if extras.contains t then
      Bits.ofList ((List.range g.tokens.size).map Grammar.tokenSymbol)
    else s.union extras
  ((List.range g.tokens.size).map fun t =>
    (List.range g.tokens.size).foldl (fun s u =>
      if (behind.getD (Grammar.tokenSymbol t) .empty).contains (Grammar.tokenSymbol u) then
        s.union (l.recognizer u).starters
      else s) ⟨Bits.empty⟩).toArray

def ofGrammar (g : Grammar) (l : Lexicon) : Clash :=
  let followers := followers g l
  let count := g.tokens.size
  (List.range count).foldl (fun clash i =>
    ((List.range count).drop (i + 1)).foldl (fun clash j =>
      let c : Contest := ⟨i, j⟩
      let fuel := (l.recognizer i).stateCount * (l.recognizer j).stateCount + 1
      c.compare l followers fuel [⟨1, 1⟩] [⟨1, 1⟩] clash) clash) (none count)

variable (c : Clash)

/-- The tokens that a token displaces if both are looked for. -/
def displaced (t : Nat) : Bits :=
  ((c.onward.getD t .empty).union (c.blank.getD t .empty)).union (c.same.getD t .empty)

/-- The tokens that a token must not be looked for with, unless they can come at one place
anyway. -/
def overlapping (t : Nat) : Bits :=
  (c.longer.getD t .empty).union (Bits.ofList ((List.range c.longer.size).filterMap fun u =>
    if (c.longer.getD u .empty).contains (Grammar.tokenSymbol t) then
      some (Grammar.tokenSymbol u)
    else Option.none))

end Clash
end ViewCases.Source
