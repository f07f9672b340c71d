import ViewCases.Source.Parse.Recover

/-! Parsing a whole source: all threads advance side by side, and now and then the ones that
fall behind are given up. -/
namespace ViewCases.Source.Parse

variable (s : Setting)

/-- What became of a thread when its actions were tried. -/
inductive Progress
  /-- It has moved on, or it has come to its end. -/
  | done
  /-- Reductions were made; the last of them told the first thread that came of it. -/
  | reduced (made : Bool) (thread : Option Nat)

def shift (v : Nat) (next : Tree) (state : Nat) (isExtra : Bool) (p : Parse) : Parse :=
  let p := p.push v (some (next.withExtra isExtra)) state
  match next.label.hashes with
  | some h => p.setThread v ({ · with hashes := some h })
  | none => p

/-- Tries the actions of an entry up to the first one that is not a reduction. -/
def tryActs (v : Nat) (next : Tree) (target : Option Nat) :
    List Act → Bool → Option Nat → Parse → Progress × Parse
  | [], made, result, p => (.reduced made result, p)
  | act :: rest, made, result, p =>
    match act with
    | .shiftRepeated => tryActs v next target rest made result p
    | .shift => (.done, shift v next (target.getD Table.defectState) false p)
    | .skipExtra => (.done, shift v next (p.stateOf v) true p)
    | .accept => (.done, finish s v next p)
    | .reduce n =>
      let (new, p) := reduce s v (s.table.reductions.getD n default) p
      tryActs v next target rest true (new <|> result) p

/-- Goes on from a state until the next tree is shifted or nothing can be done with it. -/
def advanceWith (v : Nat) (next : Tree) : Nat → Parse → Parse
  | 0, p => p.halt v
  | fuel + 1, p =>
    let state := p.stateOf v
    let entry := s.table.entryFor state next.kind
    if state = Table.defectState && !entry.acts.contains .skipExtra then recover s v next p
    else
      match tryActs s v next entry.target entry.acts false none p with
      | (.done, p) => p
      | (.reduced _ (some w), p) => advanceWith v next fuel (p.replace w v)
      | (.reduced true none, p) => p.halt v
      | (.reduced false none, p) =>
        let count := (p.head v).count
        p.setThread v ({ · with status := .paused next, countBefore := count })

/-- More reductions than can follow one another before one tree. -/
def reductionLimit : Nat := 100000

def advance (v : Nat) (p : Parse) : Parse :=
  advanceWith s v (p.lookahead s v) reductionLimit p

/-- Advances a thread until it is ahead of all threads so far. `ahead` is the place up to which
they have come. -/
def advanceAhead (v : Nat) : Nat → Nat → Parse → Nat × Parse
  | 0, ahead, p => (ahead, p.halt v)
  | fuel + 1, ahead, p =>
    if !p.isActive v then (ahead, p)
    else
      let p := advance s v p
      let place := (p.placeOf v).chars
      if ahead < place || (0 < v && place = ahead) then (place, p)
      else advanceAhead v fuel ahead p

def advanceAll (limit : Nat) : Nat → Nat → Nat → Parse → Nat × Parse
  | 0, _, ahead, p => (ahead, p)
  | fuel + 1, v, ahead, p =>
    if p.threads.size ≤ v then (ahead, p)
    else
      let (ahead, p) := advanceAhead s v limit ahead p
      advanceAll limit fuel (v + 1) ahead p

/-- Compares a thread `v` with those before it, from `w` on: of two one may be given up, they may
become one, or they may change places. The place at which the next thread stands is told. -/
def sift (v : Nat) (own : Standing) : Nat → Nat → Parse → Nat × Parse
  | 0, _, p => (v + 1, p)
  | fuel + 1, w, p =>
    if v ≤ w then (v + 1, p)
    else
      let (other, p) := standingOf w p
      match other.compare own with
      | .takeLeft => (v, p.remove v)
      | .preferLeft | .none =>
        if p.canMerge w v then (v, p.merge w v) else sift v own fuel (w + 1) p
      | .preferRight =>
        if p.canMerge w v then (v, p.merge w v)
        else
          let a := p.thread v
          let b := p.thread w
          let p := { p with threads := (p.threads.setIfInBounds v b).setIfInBounds w a }
          sift v own fuel (w + 1) p
      | .takeRight => sift (v - 1) own fuel w (p.remove w)

/-- Sifts all threads, and tells the least cost of one without a defect. -/
def siftAll : Nat → Nat → Option Nat → Parse → Option Nat × Parse
  | 0, _, best, p => (best, p)
  | fuel + 1, v, best, p =>
    if p.threads.size ≤ v then (best, p)
    else if (p.thread v).status.isHalted then siftAll fuel v best (p.remove v)
    else
      let (own, p) := standingOf v p
      let best := if own.isInDefect then best else some (min own.cost (best.getD own.cost))
      let (next, p) := sift v own (p.threads.size + 1) 0 p
      siftAll fuel next best p

/-- Lets the first paused thread look for a way on if no thread before it goes on; the other
paused threads are given up. -/
def resume : Nat → Nat → Nat → Bool → Option Nat → Parse → Option Nat × Parse
  | 0, _, _, _, best, p => (best, p)
  | fuel + 1, count, v, goesOn, best, p =>
    if count ≤ v then (best, p)
    else
      match (p.thread v).status with
      | .paused next =>
        if !goesOn && p.acceptCount < threadLimit then
          let best := some (p.costOf v)
          let p := handleDefect s v next (p.setStatus v .active)
          resume fuel count (v + 1) true best p
        else resume fuel (count - 1) v goesOn best (p.remove v)
      | _ => resume fuel count (v + 1) true best p

/-- Gives up the threads that fall behind. Tells the least cost at which a thread can end. -/
def condense (p : Parse) : Option Nat × Parse :=
  let (best, p) := siftAll (2 * p.threads.size + 1) 0 none p
  let p := { p with threads := p.threads.take threadLimit }
  resume s (p.threads.size + 1) p.threads.size 0 false best p

/-- Advances and condenses until the best tree is found. -/
def loop (limit : Nat) : Nat → Nat → Parse → Parse
  | 0, _, p => p
  | fuel + 1, ahead, p =>
    let (ahead, p) := advanceAll s limit limit 0 ahead p
    let count := p.threads.size
    let (best, p) := condense s p
    let isDone := match p.finished, best with
      | some t, some b => decide (t.cost < b)
      | some _, none => true
      | none, _ => false
    if isDone || count = 0 then p else loop limit fuel ahead p

def tree? : Option Tree :=
  let limit := 1000 * (s.input.size + 100)
  (loop s limit limit 0 start).finished

end ViewCases.Source.Parse
