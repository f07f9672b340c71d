import ViewCases.Yaml.Scalar
import ViewCases.Yaml.Stream

/-! The tokens of a YAML text. Indentation becomes block starts and ends. A mapping
key is recognised at the colon behind it: a place where one may start is remembered
until its line ends, and the tokens that mark the key go in front of it then. A token
is read only when it is asked for, so that a fault counts only where reading reaches it. -/
namespace ViewCases.Yaml
open Cursor

inductive Token
  | version (major minor : Nat)
  | tagHandle (handle lead : Text)
  | directive
  | documentStart
  | documentEnd
  | blockSequence
  | blockMapping
  | blockEnd
  | flowSequence
  | flowSequenceEnd
  | flowMapping
  | flowMappingEnd
  | flowEntry
  | blockEntry
  | key
  | value
  | alias (name : Text)
  | anchor (name : Text)
  | tag (handle : Option Text) (suffix : Text)
  | scalar (text : ScalarText) (plain : Bool)
  | streamEnd
  deriving DecidableEq, Repr

/-- A place where a key may have started: the number of tokens before it in the whole
text, and whether no other reading is possible. -/
structure KeyPlace where
  tokenCount : Nat
  required : Bool
  index : Nat
  line : Nat
  column : Nat

/-- The state of reading. `tokens` were read and not yet taken; `taken` counts those
that were. -/
structure Scanner where
  cursor : Cursor
  tokens : List Token := []
  taken : Nat := 0
  ended : Bool := false
  flowLevel : Nat := 0
  /-- The column of the innermost block, if one is open. -/
  indent : Option Nat := none
  outer : List (Option Nat) := []
  keyAllowed : Bool := true
  keyPlaces : List (Nat × KeyPlace) := []

namespace Scanner

abbrev Step := Scanner → Except Stop Scanner

def emit (t : Token) (s : Scanner) : Scanner :=
  { s with tokens := s.tokens ++ [t] }

def forward (n : Nat) (s : Scanner) : Scanner :=
  { s with cursor := s.cursor.forward n }

def inFlow (s : Scanner) : Bool :=
  s.flowLevel ≠ 0

def keyPlace? (s : Scanner) : Option KeyPlace :=
  (s.keyPlaces.find? (·.1 = s.flowLevel)).map (·.2)

def dropKeyPlace (s : Scanner) : Scanner :=
  { s with keyPlaces := s.keyPlaces.filter (·.1 ≠ s.flowLevel) }

/-- Forgets the key place of this level; a key that had to be there is missing. -/
def discardKeyPlace : Step := fun s =>
  if s.keyPlace?.any (·.required) then .error (.fault .unreadable) else .ok s.dropKeyPlace

/-- Forgets the key places that a colon can no longer follow. -/
def dropStaleKeys : Step := fun s =>
  let stale := fun (k : KeyPlace) => k.line ≠ s.cursor.line || s.cursor.index - k.index > 1024
  if s.keyPlaces.any fun k => stale k.2 && k.2.required then .error (.fault .unreadable)
  else .ok { s with keyPlaces := s.keyPlaces.filter fun k => !stale k.2 }

def saveKeyPlace : Step := fun s =>
  let required := !s.inFlow && s.indent == some s.cursor.column
  if s.keyAllowed then do
    let s ← s.discardKeyPlace
    let place : KeyPlace :=
      ⟨s.taken + s.tokens.length, required, s.cursor.index, s.cursor.line, s.cursor.column⟩
    return { s with keyPlaces := (s.flowLevel, place) :: s.keyPlaces }
  else .ok s

/-- Closes the blocks that are indented deeper than `column`, or all without one. -/
def unwind (column : Option Nat) : Nat → Scanner → Scanner
  | 0, s => s
  | fuel + 1, s =>
    match s.indent with
    | none => s
    | some i =>
      if column.any (i ≤ ·) then s
      else
        let s := s.emit .blockEnd
        unwind column fuel { s with indent := s.outer.head?.getD none, outer := s.outer.tail }

def unwindTo (column : Option Nat) (s : Scanner) : Scanner :=
  if s.inFlow then s else s.unwind column (s.outer.length + 1)

/-- Opens a block at `column` if that is deeper than the innermost one. -/
def deepen (column : Nat) (s : Scanner) : Option Scanner :=
  if s.indent.all (· < column) then
    some { s with indent := some column, outer := s.indent :: s.outer }
  else none

/-- Puts a token behind the first `count` ones of the whole text. -/
def insertToken (count : Nat) (t : Token) (s : Scanner) : Scanner :=
  let position := count - s.taken
  { s with tokens := s.tokens.take position ++ t :: s.tokens.drop position }

/-- Blanks, comments and line ends before the next token. -/
def skipToToken : Nat → Scanner → Scanner
  | 0, s => s
  | fuel + 1, s =>
    let c := s.cursor.skipWhile (· == ' ')
    let c := if c.sees '#' then c.skipWhile (!isBreak ·) else c
    match c.takeBreak with
    | ([], _) => { s with cursor := c }
    | (_, c) => skipToToken fuel { s with cursor := c, keyAllowed := s.keyAllowed || !s.inFlow }

def isNameChar (c : Char) : Bool :=
  ('0' ≤ c && c ≤ '9') || ('a' ≤ c && c ≤ 'z') || ('A' ≤ c && c ≤ 'Z') || c == '-' || c == '_'

def number (c : Cursor) : Except Stop (Nat × Cursor) :=
  let (digits, c) := c.takeWhile fun x => '0' ≤ x && x ≤ '9'
  if digits.isEmpty then c.fail
  else if Fault.mostDigits < digits.length then c.fail (.tooManyDigits digits.length)
  else .ok (digits.foldl (fun n x => n * 10 + (x.toNat - 48)) 0, c)

def isUriChar (c : Char) : Bool :=
  isNameChar c || ("%;/?:@&=+$,.!~*'()[]" : Text).contains c

/-- The bytes that the percent escapes at this place stand for. -/
def percentEscapes : Nat → Cursor → Except Stop (List UInt8 × Cursor)
  | 0, c => c.fail
  | fuel + 1, c =>
    if c.sees '%' then do
      let (n, c) ← takeHex 2 c.advance
      let (bytes, c) ← percentEscapes fuel c
      return (n.toUInt8 :: bytes, c)
    else .ok ([], c)

/-- The text of a tag. Every run of percent escapes is UTF-8. -/
def uriText : Nat → Cursor → Except Stop (Text × Cursor)
  | 0, c => c.fail
  | fuel + 1, c => do
    match c.peek with
    | none => return ([], c)
    | some x =>
      if x == '%' then
        let (bytes, c) ← percentEscapes fuel c
        match Utf8.decode bytes with
        | .error _ => c.fail
        | .ok t =>
          let (rest, c) ← uriText fuel c
          return (t ++ rest, c)
      else if isUriChar x then
        let (rest, c) ← uriText fuel c.advance
        return (x :: rest, c)
      else return ([], c)

def takeUri (c : Cursor) : Except Stop (Text × Cursor) :=
  if (c.peek).any isUriChar then uriText (c.rest.length + 1) c else c.fail

/-- A tag handle such as `!`, `!!` or `!e!`. -/
def takeHandle (c : Cursor) : Except Stop (Text × Cursor) :=
  if !c.sees '!' then c.fail
  else
    let (name, after) := c.advance.takeWhile isNameChar
    if after.sees '!' then .ok ('!' :: name ++ ['!'], after.advance)
    else if name.isEmpty && after.sees ' ' then .ok (['!'], after)
    else after.fail

def takeDirective (c : Cursor) : Except Stop (Token × Cursor) := do
  let (name, c) := c.advance.takeWhile isNameChar
  if name.isEmpty || !(c.endsAt || c.sees ' ') then c.fail
  if name = "YAML" then
    let (major, c) ← number (c.skipWhile (· == ' '))
    if !c.sees '.' then c.fail
    let (minor, c) ← number c.advance
    if !(c.endsAt || c.sees ' ') then c.fail
    return (.version major minor, ← ignoredLine c)
  else if name = "TAG" then
    let (handle, c) ← takeHandle (c.skipWhile (· == ' '))
    if !c.sees ' ' then c.fail
    let (lead, c) ← takeUri (c.skipWhile (· == ' '))
    if !(c.endsAt || c.sees ' ') then c.fail
    return (.tagHandle handle lead, ← ignoredLine c)
  else return (.directive, ← ignoredLine (c.skipWhile (!isBreak ·)))

/-- The name of an anchor or alias behind its indicator. -/
def takeAnchor (c : Cursor) : Except Stop (Text × Cursor) :=
  let (name, c) := c.advance.takeWhile isNameChar
  let follows := c.gapAt || (c.peek).any ("?:,]\x7d%@`" : Text).contains
  if name.isEmpty || !follows then c.fail else .ok (name, c)

def takeTag (c : Cursor) : Except Stop (Token × Cursor) := do
  let (t, c) ←
    if c.sees '<' 1 then do
      let (suffix, c) ← takeUri (c.forward 2)
      if !c.sees '>' then c.fail
      pure (Token.tag none suffix, c.advance)
    else if c.gapAt 1 then pure (.tag none ['!'], c.advance)
    else
      let (word, behind) := c.advance.takeWhile fun x => x != ' ' && !isBreak x
      if word.contains '!' then do
        let (handle, c) ← takeHandle c
        let (suffix, c) ← takeUri c
        pure (.tag handle suffix, c)
      else do
        behind.need 1
        let (suffix, c) ← takeUri c.advance
        pure (.tag (some ['!']) suffix, c)
  if !(c.endsAt || c.sees ' ') then c.fail
  return (t, c)

def startsPlain (s : Scanner) : Bool :=
  match s.cursor.peek with
  | none => false
  | some x =>
    let indicator := ("-?:,[]\x7b\x7d#&*!|>'\"%@`" : Text).contains x
    !(s.cursor.gapAt || indicator) ||
      (!s.cursor.gapAt 1 && (x == '-' || (!s.inFlow && (x == '?' || x == ':'))))

def documentMarker (t : Token) : Step := fun s => do
  let s ← (s.unwindTo none).discardKeyPlace
  return { s.forward 3 with keyAllowed := false }.emit t

def flowStart (t : Token) : Step := fun s => do
  let s ← s.saveKeyPlace
  return { s.forward 1 with flowLevel := s.flowLevel + 1, keyAllowed := true }.emit t

def flowEnd (t : Token) : Step := fun s => do
  let s ← s.discardKeyPlace
  if s.flowLevel = 0 then s.cursor.advance.fail
  return { s.forward 1 with flowLevel := s.flowLevel - 1, keyAllowed := false }.emit t

/-- Opens the block `t` for an indicator at this place, where one may stand. -/
def openBlock (t : Token) : Step := fun s =>
  if s.inFlow then .ok s
  else if !s.keyAllowed then .error (.fault .unreadable)
  else match s.deepen s.cursor.column with
    | some s => .ok (s.emit t)
    | none => .ok s

def blockEntry : Step := fun s => do
  let s ← s.openBlock .blockSequence
  let s ← { s with keyAllowed := true }.discardKeyPlace
  return (s.forward 1).emit .blockEntry

def explicitKey : Step := fun s => do
  let s ← s.openBlock .blockMapping
  let s ← { s with keyAllowed := !s.inFlow }.discardKeyPlace
  return (s.forward 1).emit .key

def value : Step := fun s => do
  let s ← match s.keyPlace? with
    | some place =>
      let s := s.dropKeyPlace.insertToken place.tokenCount .key
      let s := if s.inFlow then s else match s.deepen place.column with
        | some s => s.insertToken place.tokenCount .blockMapping
        | none => s
      pure { s with keyAllowed := false }
    | none => do
      let s ← s.openBlock .blockMapping
      { s with keyAllowed := !s.inFlow }.discardKeyPlace
  return (s.forward 1).emit .value

/-- A token that may be a key; `take` reads it. -/
def keyToken (take : Cursor → Except Stop (Token × Cursor)) : Step := fun s => do
  let s ← s.saveKeyPlace
  let (t, c) ← take s.cursor
  return { s with cursor := c, keyAllowed := false }.emit t

def plain : Step := fun s => do
  let s ← s.saveKeyPlace
  let (t, ended, c) := plainScalar s.inFlow (s.indent.elim 0 (· + 1)) s.cursor
  return { s with cursor := c, keyAllowed := ended }.emit (.scalar (.whole t) true)

def block (folded : Bool) : Step := fun s => do
  let s ← { s with keyAllowed := true }.discardKeyPlace
  let (t, c) ← blockScalar folded s.indent s.cursor
  return { s with cursor := c }.emit (.scalar (.whole t) false)

/-- The number of characters that tell what the token at this place is, the first one being
`x`. -/
def lookahead (s : Scanner) (x : Char) : Nat :=
  if s.cursor.column = 0 && (x == '-' || x == '.') then 3
  else if x == '-' || (!s.inFlow && (x == '?' || x == ':')) then 2
  else 1

/-- Reads the token at this place, whose first character is `x`. -/
def next (x : Char) : Step := fun s => do
  let c := s.cursor
  c.need (s.lookahead x)
  if c.column = 0 && x == '%' then
    let s ← (s.unwindTo none).discardKeyPlace
    let (t, c) ← takeDirective s.cursor
    return { s with cursor := c, keyAllowed := false }.emit t
  else if c.column = 0 && x == '-' && c.seesMarker then s.documentMarker .documentStart
  else if c.column = 0 && x == '.' && c.seesMarker then s.documentMarker .documentEnd
  else if x == '[' then s.flowStart .flowSequence
  else if x == '\x7b' then s.flowStart .flowMapping
  else if x == ']' then s.flowEnd .flowSequenceEnd
  else if x == '\x7d' then s.flowEnd .flowMappingEnd
  else if x == ',' then
    let s ← { s with keyAllowed := true }.discardKeyPlace
    return (s.forward 1).emit .flowEntry
  else if x == '-' && c.gapAt 1 then s.blockEntry
  else if x == '?' && (s.inFlow || c.gapAt 1) then s.explicitKey
  else if x == ':' && (s.inFlow || c.gapAt 1) then s.value
  else if x == '*' then s.keyToken fun c => (fun (n, c) => (.alias n, c)) <$> takeAnchor c
  else if x == '&' then s.keyToken fun c => (fun (n, c) => (.anchor n, c)) <$> takeAnchor c
  else if x == '!' then s.keyToken takeTag
  else if x == '|' && !s.inFlow then s.block false
  else if x == '>' && !s.inFlow then s.block true
  else if x == '\'' then
    s.keyToken fun c => (fun (t, c) => (.scalar t false, c)) <$> quotedScalar false c
  else if x == '"' then
    s.keyToken fun c => (fun (t, c) => (.scalar t false, c)) <$> quotedScalar true c
  else if s.startsPlain then s.plain
  else .error (.fault .unreadable)

/-- Stops at the end of the text that can be had, unless the text ends there. -/
def reach : Step := fun s => do
  s.cursor.need 1
  return s

/-- Reads one more token, or the ends of blocks before it. -/
def fetch : Step := fun s => do
  let s ← (s.skipToToken (s.cursor.rest.length + 1)).reach
  let s ← s.dropStaleKeys
  match s.cursor.peek with
  | none =>
    let s ← (s.unwindTo none).discardKeyPlace
    return { s with keyPlaces := [], ended := true }.emit .streamEnd
  | some x => (← (s.unwindTo (some s.cursor.column)).next x).reach

/-- The number of tokens before the first place where a key may have started. -/
def firstKey? (s : Scanner) : Option Nat :=
  (s.keyPlaces.map (·.2.tokenCount)).min?

/-- Reads on until the next token is certain: it may still turn out to be a key. -/
def ready : Nat → Step
  | 0, s => .ok s
  | fuel + 1, s =>
    if s.ended then .ok s
    else if s.tokens.isEmpty then do (← s.fetch).ready fuel
    else do
      let s ← s.dropStaleKeys
      if s.firstKey? = some s.taken then (← s.fetch).ready fuel else return s

def look (s : Scanner) : Except Stop (Token × Scanner) := do
  let s ← s.ready (s.cursor.rest.length + 2)
  return (s.tokens.headD .streamEnd, s)

def skip (s : Scanner) : Scanner :=
  { s with tokens := s.tokens.tail, taken := s.taken + 1 }

end Scanner

/-- The reading of a file from its start. A byte order mark there counts for nothing. -/
def Scanner.ofStream (s : Stream) : Scanner :=
  let c : Cursor := { rest := s.text, isCut := s.fault?.isSome }
  { cursor := if c.sees (Char.ofNat 0xFEFF) then c.advance else c }

end ViewCases.Yaml
