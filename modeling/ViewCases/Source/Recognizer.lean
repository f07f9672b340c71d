import ViewCases.Source.Token

/-! Automata that recognise the texts of one kind of token. A state is a set of places in the
pattern; white space may lead up to the token. -/
namespace ViewCases.Source

/-- The places of a pattern, numbered from left to right, and how they follow one another.
Sets of places are bit masks. -/
structure Places where
  /-- Whether the pattern matches no characters at all. -/
  isNullable : Bool
  first : Nat
  last : Nat
  /-- Behind any place of the left set may come any place of the right one. -/
  links : List (Nat × Nat)
  /-- What stands at the places. -/
  sets : List Charset

/-- The places of a pattern, the first of which gets the number `n`. -/
def Pattern.places (n : Nat) : Pattern → Places
  | .empty => ⟨true, 0, 0, [], []⟩
  | .one set => ⟨false, 1 <<< n, 1 <<< n, [], [set]⟩
  | .seq p q =>
    let a := p.places n
    let b := q.places (n + a.sets.length)
    { isNullable := a.isNullable && b.isNullable
      first := if a.isNullable then a.first ||| b.first else a.first
      last := if b.isNullable then a.last ||| b.last else b.last
      links := (a.last, b.first) :: (a.links ++ b.links)
      sets := a.sets ++ b.sets }
  | .alt p q =>
    let a := p.places n
    let b := q.places (n + a.sets.length)
    { isNullable := a.isNullable || b.isNullable
      first := a.first ||| b.first
      last := a.last ||| b.last
      links := a.links ++ b.links
      sets := a.sets ++ b.sets }
  | .star p =>
    let a := p.places n
    { a with isNullable := true, links := (a.last, a.first) :: a.links }

/-- The automaton of a token. State 0 is the dead one and state 1 the start. -/
structure Recognizer where
  /-- The state behind a state and a character class. -/
  moves : Array Nat
  /-- Whether such a step is one inside the token, not only before it. -/
  isInside : Array Bool
  /-- Whether the token may end in a state. -/
  accepts : Array Bool
  /-- Whether white space may still come before the token. -/
  isLeading : Array Bool
  /-- The character classes with which a match can go on from a state. -/
  exits : Array Charset
  deriving Inhabited

namespace Recognizer

/-- A state while the automaton is built: places, one of which was passed last, and whether
white space may still come before the token. Place 0 is before the first character. -/
structure Stage where
  places : Nat
  isLeading : Bool
  deriving BEq

/-- The stages that come behind the given ones, in the order in which they are found. -/
def explore (start : Stage) (step : Stage → Nat → Stage) :
    Nat → Nat → Array Stage → Array Nat → Array Stage × Array Nat
  | 0, _, stages, moves => (stages, moves)
  | fuel + 1, done, stages, moves =>
    match stages[done]? with
    | none => (stages, moves)
    | some stage =>
      let (stages, moves) := (List.range Charset.classCount).foldl (fun (stages, moves) k =>
        let next := step stage k
        match stages.findIdx? (· == next) with
        | some i => (stages, moves.push i)
        | none => (stages.push next, moves.push stages.size)) (stages, moves)
      explore start step fuel (done + 1) stages moves

/-- No token of the grammar needs as many states. -/
def stateLimit : Nat := 1000

def ofPattern (pattern : Pattern) (isAdjacent : Bool) : Recognizer :=
  let places := pattern.places 1
  let links := (1, places.first) :: places.links
  let final := if places.isNullable then places.last ||| 1 else places.last
  let accepting := (List.range Charset.classCount).map fun k =>
    (places.sets.foldl (fun (m, bit) set =>
      (if set.contains k then m ||| bit else m, bit <<< 1)) (0, 2)).1
  let accepting := accepting.toArray
  let inside (stage : Stage) (k : Nat) : Nat :=
    (links.foldl (fun m (left, right) =>
      if left &&& stage.places = 0 then m else m ||| right) 0) &&& accepting.getD k 0
  let start : Stage := ⟨1, !isAdjacent⟩
  let step (stage : Stage) (k : Nat) : Stage :=
    let leading := stage.isLeading && Charset.blank.contains k
    let next := inside stage k
    ⟨if leading then next ||| 1 else next, leading⟩
  let (stages, moves) := explore start step stateLimit 0 #[⟨0, false⟩, start] #[]
  { moves
    isInside := stages.flatMap fun stage =>
      ((List.range Charset.classCount).map fun k => inside stage k != 0).toArray
    accepts := stages.map fun stage => stage.places &&& final != 0
    isLeading := stages.map (·.isLeading)
    exits := stages.map fun stage =>
      .ofClasses ((List.range Charset.classCount).filter fun k => (step stage k).places != 0) }

def ofToken (t : Token) : Recognizer := ofPattern t.pattern t.isAdjacent

def move (r : Recognizer) (state cls : Nat) : Nat :=
  r.moves.getD (state * Charset.classCount + cls) 0

def movesInside (r : Recognizer) (state cls : Nat) : Bool :=
  r.isInside.getD (state * Charset.classCount + cls) false

def acceptsIn (r : Recognizer) (state : Nat) : Bool := r.accepts.getD state false

def leadsIn (r : Recognizer) (state : Nat) : Bool := r.isLeading.getD state false

def exitsOf (r : Recognizer) (state : Nat) : Charset := r.exits.getD state default

/-- The characters that the token, or white space before it, can begin with. -/
def starters (r : Recognizer) : Charset := r.exitsOf 1

def stateCount (r : Recognizer) : Nat := r.accepts.size

end Recognizer
end ViewCases.Source
