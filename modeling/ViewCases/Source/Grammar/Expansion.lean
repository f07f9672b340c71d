import ViewCases.Source.Grammar.Basic

/-! Rules without repetition and without choices. A part that is repeated becomes a rule of
its own, and a rule with choices becomes several productions. -/
namespace ViewCases.Source

namespace Rule

mutual
def tokens : Rule → List Token
  | .token t => [t]
  | .seq ps => tokensOfAll ps
  | .alt ps => tokensOfAll ps
  | .many p => tokens p
  | .noted _ p => tokens p
  | _ => []
def tokensOfAll : List Rule → List Token
  | [] => []
  | p :: ps => tokens p ++ tokensOfAll ps
end

/-- Rules that stand for repeated parts, in the order in which they were found. -/
structure Repetitions where
  /-- The name of each rule with the part that it repeats. -/
  found : Array (String × Rule) := #[]

/-- The name of the rule that repeats a part; equal parts share one. -/
def Repetitions.nameOf (r : Repetitions) (part : Rule) : String × Repetitions :=
  match r.found.find? fun (_, p) => p.same part with
  | some (n, _) => (n, r)
  | none =>
    let n := "repetition " ++ toString r.found.size
    (n, ⟨r.found.push (n, part)⟩)

mutual
/-- The rule with the names of rules in the places of its repeated parts. -/
def unrepeated (r : Repetitions) : Rule → Rule × Repetitions
  | .seq ps => let (qs, r) := unrepeatedAll r ps; (.seq qs, r)
  | .alt ps => let (qs, r) := unrepeatedAll r ps; (.alt qs, r)
  | .noted n p => let (q, r) := unrepeated r p; (.noted n q, r)
  | .many p =>
    let (q, r) := unrepeated r p
    let (n, r) := r.nameOf q
    (.name n, r)
  | p => (p, r)
def unrepeatedAll (r : Repetitions) : List Rule → List Rule × Repetitions
  | [] => ([], r)
  | p :: ps =>
    let (q, r) := unrepeated r p
    let (qs, r) := unrepeatedAll r ps
    (q :: qs, r)
end

/-- The rule of this name for one or more of a part: two such runs, or the part. -/
def repetition (n : String) (part : Rule) : Rule :=
  oneOf [.seq [.name n, .name n], part]

mutual
/-- The rules without choices that a rule stands for. -/
def expansions : Rule → List Rule
  | .seq ps => (expansionsOfAll ps).map .seq
  | .alt ps => choicesOfAll ps
  | .noted n p => (expansions p).map (.noted n)
  | p => [p]
/-- All ways to expand each of the parts. -/
def expansionsOfAll : List Rule → List (List Rule)
  | [] => [[]]
  | p :: ps =>
    let rest := expansionsOfAll ps
    (expansions p).flatMap fun q => rest.map (q :: ·)
/-- All ways to expand one of the parts. -/
def choicesOfAll : List Rule → List Rule
  | [] => []
  | p :: ps => expansions p ++ choicesOfAll ps
end

/-- What the notes around a part say about it. -/
structure Context where
  level : Int := 0
  side : Option Side := none
  otherName : Option String := none

/-- Inner notes win over outer ones. -/
def Context.enter (c : Context) (n : Note) : Context :=
  { level := n.level.getD c.level
    side := n.side <|> c.side
    otherName := n.otherName <|> c.otherName }

/-- A level holds up to the last step of its part; that step itself belongs to what comes
behind the part. -/
def leave (c : Context) (n : Note) (steps : List Step) : List Step :=
  match steps.getLast? with
  | none => []
  | some s =>
    let s := if n.level.isSome then { s with level := c.level } else s
    let s := if n.side.isSome then { s with side := c.side } else s
    steps.dropLast ++ [s]

mutual
/-- The steps of a rule without choices and repetitions. `symbolOf` gives the symbol of a
rule that is a lone part. -/
def steps (symbolOf : Rule → Nat) (c : Context) (atEnd : Bool) : Rule → List Step
  | .empty => []
  | .seq ps => stepsOfAll symbolOf c atEnd ps
  | .noted n p =>
    let inner := steps symbolOf (c.enter n) atEnd p
    if atEnd then inner else leave c n inner
  | p => [⟨symbolOf p, c.level, c.side, c.otherName⟩]
def stepsOfAll (symbolOf : Rule → Nat) (c : Context) (atEnd : Bool) : List Rule → List Step
  | [] => []
  | [p] => steps symbolOf c atEnd p
  | p :: ps => steps symbolOf c false p ++ stepsOfAll symbolOf c atEnd ps
end

mutual
/-- The notes in a rule, outer ones first. -/
def notes : Rule → List Note
  | .seq ps => notesOfAll ps
  | .noted n p => n :: notes p
  | _ => []
def notesOfAll : List Rule → List Note
  | [] => []
  | p :: ps => notes p ++ notesOfAll ps
end

/-- Of the weights in a rule the one of greatest size counts. -/
def weightOf (notes : List Note) : Int :=
  notes.foldl (fun w n => if w.natAbs < n.weight.natAbs then n.weight else w) 0

/-- The productions of a rule without repetitions; none of them comes twice. -/
def productions (symbolOf : Rule → Nat) (p : Rule) : List Production :=
  (expansions p).foldl (fun found q =>
    let notes := q.notes
    let new : Production :=
      ⟨q.steps symbolOf {} true, weightOf notes, notes.any (·.hasRole)⟩
    if found.any fun old => old.steps = new.steps && old.weight = new.weight then found
    else found ++ [new]) []

end Rule
end ViewCases.Source
