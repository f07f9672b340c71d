import ViewCases.Source.Grammar.Basic
import ViewCases.Source.Recognizer

/-! The recognition of tokens: of those that can stand at a place, the longest match counts,
unless a token of higher rank has matched before. -/
namespace ViewCases.Source

/-- The tokens of a grammar with their automata. -/
structure Lexicon where
  tokens : Array Token
  recognizers : Array Recognizer
  deriving Inhabited

namespace Lexicon

def ofTokens (tokens : Array Token) : Lexicon := ⟨tokens, tokens.map Recognizer.ofToken⟩

def ofGrammar (g : Grammar) : Lexicon := ofTokens g.tokens

def rank (l : Lexicon) (t : Nat) : Int := (l.tokens[t]?.map (·.rank)).getD 0

def recognizer (l : Lexicon) (t : Nat) : Recognizer := l.recognizers.getD t default

/-- How special a token is: fixed texts more than patterns, adjacent ones more than others. -/
def closeness (l : Lexicon) (t : Nat) : Nat :=
  match l.tokens[t]? with
  | some token => (if token.isWord then 2 else 0) + (if token.isAdjacent then 1 else 0)
  | none => 0

/-- Of two tokens with the same text, whether the first one counts. -/
def prefers (l : Lexicon) (t u : Nat) : Bool :=
  if l.rank t ≠ l.rank u then l.rank u < l.rank t
  else if l.closeness t ≠ l.closeness u then l.closeness u < l.closeness t
  else t < u

/-- What was found at a place. -/
inductive Match
  | token (index start stop : Nat)
  /-- Only white space is left. -/
  | finish (pos : Nat)
  /-- No token is there: behind the white space some characters were tried in vain. -/
  | nothing (start reached : Nat)
  deriving Repr

/-- A token that still may come, and the state of its automaton. -/
structure Candidate where
  token : Nat
  state : Nat

/-- The candidates at a place that no token has been read from yet. -/
def candidates (l : Lexicon) (tokens : Bits) : List Candidate :=
  (List.range l.tokens.size).filterMap fun t =>
    if tokens.contains (Grammar.tokenSymbol t) then some ⟨t, 1⟩ else none

/-- The preferred one of the candidates that match up to here. -/
def completed (l : Lexicon) (cs : List Candidate) : Option Nat :=
  cs.foldl (fun best c =>
    if (l.recognizer c.token).acceptsIn c.state then
      match best with
      | some b => if l.prefers c.token b then some c.token else best
      | none => some c.token
    else best) none

def advance (l : Lexicon) (cs : List Candidate) (cls : Nat) : List Candidate :=
  cs.filterMap fun c =>
    match (l.recognizer c.token).move c.state cls with
    | 0 => none
    | state => some ⟨c.token, state⟩

/-- The highest rank of the tokens that can go on with a character. -/
def onwardRank (l : Lexicon) (cs : List Candidate) (cls : Nat) : Option Int :=
  cs.foldl (fun best c =>
    if (l.recognizer c.token).movesInside c.state cls then
      some (match best with | some b => max b (l.rank c.token) | none => l.rank c.token)
    else best) none

/-- Whether reading on is better than a token that ends here. White space before a token
counts as a token of rank 0; it never takes precedence over one of its own rank. -/
def goesOn (completedRank onward : Int) (isBlankOnly mayLead keepsCompleted : Bool) : Bool :=
  if onward < completedRank then false
  else if onward = completedRank then !isBlankOnly && !(mayLead && !keepsCompleted)
  else true

/-- Reads on from a place. `start` is where the token begins if it begins with the characters
read so far, and `found` the best match so far. -/
def run (l : Lexicon) : List Nat → Nat → Nat → List Candidate → Bool → Bool →
    Option Match → Match
  | classes, pos, start, cs, mayLead, mayEnd, found =>
    let best := l.completed cs
    let found := match best with
      | some t => some (.token t start pos)
      | none => found
    match classes with
    | [] =>
      if mayEnd && best.isNone then .finish pos else found.getD (.nothing start pos)
    | cls :: rest =>
      let leads := mayLead && Charset.blank.contains cls
      let onward := l.onwardRank cs cls
      let isBlankOnly := leads && onward.isNone
      let rank := if leads then some (max 0 (onward.getD 0)) else onward
      let next := l.advance cs cls
      let stops := match rank with
        | none => true
        | some r =>
          match best with
          | none => false
          | some t => !goesOn (l.rank t) r isBlankOnly mayLead (next.any (·.token = t))
      if stops then found.getD (.nothing start pos)
      else
        run l rest (pos + 1) (if isBlankOnly then pos + 1 else start) next leads
          (mayEnd && isBlankOnly) found

/-- The token among the given ones that comes first from a place on. `classes` are the classes
of the characters there. -/
def scan (l : Lexicon) (tokens : Bits) (mayEnd : Bool) (classes : List Nat) (pos : Nat) :
    Match :=
  let cs := l.candidates tokens
  let mayLead := cs.any fun c => (l.recognizer c.token).leadsIn c.state
  run l classes pos pos cs mayLead mayEnd none

end Lexicon
end ViewCases.Source
