import ViewCases.Source.Grammar.Expansion

/-! The grammar that a list of definitions makes out. -/
namespace ViewCases.Source

namespace Grammar

/-- The place of a token in a list without repetition. -/
def tokenIndex? (tokens : Array Token) (t : Token) : Option Nat :=
  tokens.findIdx? (·.same t)

/-- Tokens without repetition, each with the number of its uses. -/
def countTokens (ts : List Token) : Array (Token × Nat) :=
  ts.foldl (fun found t =>
    match found.findIdx? fun (u, _) => u.same t with
    | some i => found.modify i fun (u, n) => (u, n + 1)
    | none => found.push (t, 1)) #[]

/-- The token that a definition gives its own name: it is all of the definition, and it is
used nowhere else. A hidden name does not replace a fixed text. -/
def namedToken? (tokens : Array (Token × Nat)) (d : Definition) : Option Nat :=
  match d.rule with
  | .token t =>
    match tokens.findIdx? fun (u, _) => u.same t with
    | some i =>
      if (tokens[i]?.map (·.2)) = some 1 && (!t.isWord || d.isShown) then some i else none
    | none => none
  | _ => none

/-- A rule before its parts are numbered. -/
structure Draft where
  name : String
  isShown : Bool
  isRepetition : Bool
  rule : Rule

/-- The rules of the definitions, and behind them those of their repeated parts. A hidden
definition that is one repeated part is itself such a rule. -/
def drafts (ds : List Definition) : Array Draft :=
  let (own, repetitions) := ds.foldl (fun (found, r) d =>
    match d.isShown, d.rule with
    | false, .many p =>
      let (q, r) := p.unrepeated r
      (found.push ⟨d.name, false, true, Rule.repetition d.name q⟩, r)
    | _, p =>
      let (q, r) := p.unrepeated r
      (found.push ⟨d.name, d.isShown, false, q⟩, r)) (#[], ({} : Rule.Repetitions))
  own ++ repetitions.found.map fun (n, p) => ⟨n, false, true, Rule.repetition n p⟩

/-- For each symbol, the other names under which it is used and how often, and whether it is
ever used under its own. -/
def uses (symbolCount : Nat) (rules : Array (List Production)) :
    Array (List (String × Nat) × Bool) :=
  rules.foldl (fun table ps => ps.foldl (fun table p => p.steps.foldl (fun table s =>
    table.modify s.symbol fun (aliases, own) =>
      match s.otherName with
      | none => (aliases, true)
      | some a =>
        if aliases.any (·.1 = a) then
          (aliases.map fun (b, n) => if b = a then (b, n + 1) else (b, n), own)
        else (aliases ++ [(a, 1)], own)) table) table)
    (Array.replicate symbolCount ([], false))

/-- The most frequent name; of equally frequent ones the first. -/
def mostFrequent (aliases : List (String × Nat)) : Option String :=
  (aliases.foldl (fun best a =>
    match best with
    | some (_, n) => if n < a.2 then some a else best
    | none => some a) none).map (·.1)

/-- The names that take the places of symbols: those of symbols that are never used under
their own name and cannot stand anywhere. -/
def newNames (extras : Bits) (rules : Array (List Production)) (symbolCount : Nat) :
    Array (Option String) :=
  (uses symbolCount rules).mapIdx fun symbol (aliases, own) =>
    if own || extras.contains symbol then none else mostFrequent aliases

/-- The steps of a production without the names that the symbols themselves got. -/
def settleNames (newName : Array (Option String)) (p : Production) : Production :=
  { p with steps := p.steps.map fun s =>
      if s.otherName.isSome && newName.getD s.symbol none == s.otherName then
        { s with otherName := none }
      else s }

/-- The grammar of the definitions. `comment` names the rule that may stand anywhere, as the
mark of a block comment may. -/
def ofDefinitions (ds : List Definition) (comment : String) : Grammar :=
  let counted := countTokens (ds.flatMap fun d => d.rule.tokens)
  let tokens := counted.map (·.1)
  let named := (ds.drop 1).filterMap fun d => (namedToken? counted d).map fun i => (d, i)
  let rest := ds.filter fun d => !named.any fun (e, _) => e.name = d.name
  let drafts := drafts rest
  let base := tokens.size + 1 + Mark.all.length
  let symbolCount := base + drafts.size
  let nameSymbol (n : String) : Nat :=
    match named.find? fun (d, _) => d.name = n with
    | some (_, i) => tokenSymbol i
    | none => base + (drafts.findIdx? fun d => d.name = n).getD drafts.size
  let symbolOf : Rule → Nat
    | .token t => tokenSymbol ((tokenIndex? tokens t).getD tokens.size)
    | .mark m => tokens.size + 1 + m.index
    | .name n => nameSymbol n
    | _ => symbolCount
  let extras := Bits.ofList [nameSymbol comment, tokens.size + 1 + Mark.blockComment.index]
  let rules := drafts.map fun d => d.rule.productions symbolOf
  let newName := newNames extras rules symbolCount
  let tokenEntry (i : Nat) (t : Token) : String × Bool :=
    match named.find? fun (_, j) => j = i with
    | some (d, _) => (d.name, d.isShown)
    | none => (t.name, t.isWord)
  let own : Array (String × Bool) :=
    #[("end", false)] ++ tokens.mapIdx tokenEntry ++
      (Mark.all.map fun m => (m.name?.getD "", m.isShown)).toArray ++
      drafts.map fun d => (d.name, d.isShown)
  { tokens
    rules := rules.map fun ps => ps.map (settleNames newName)
    names := own.mapIdx fun i (n, _) => (newName.getD i none).getD n
    isShown := own.mapIdx fun i (_, shown) => shown || (newName.getD i none).isSome
    isRepetition := drafts.map (·.isRepetition)
    extras
    isRenamed := (List.range drafts.size).toArray.map fun r =>
      (newName.getD (base + r) none).isSome }

end Grammar
end ViewCases.Source
