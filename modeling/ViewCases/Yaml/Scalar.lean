import ViewCases.Config.Value
import ViewCases.Yaml.Cursor

/-! The text of YAML scalars in their five styles. Every reader starts at the first
character of the scalar and ends behind its last. -/
namespace ViewCases.Yaml
open Cursor Config

def hexDigit? (c : Char) : Option Nat :=
  if '0' ≤ c ∧ c ≤ '9' then some (c.toNat - 48)
  else if 'a' ≤ c ∧ c ≤ 'f' then some (c.toNat - 87)
  else if 'A' ≤ c ∧ c ≤ 'F' then some (c.toNat - 55)
  else none

/-- The number that exactly `width` hexadecimal digits write, and the place behind them. -/
def takeHex (width : Nat) (c : Cursor) : Except Stop (Nat × Cursor) :=
  let digits := (c.rest.take width).map hexDigit?
  let known := (digits.takeWhile (·.isSome)).reduceOption
  if known.length < width then (c.forward known.length).fail
  else .ok (known.foldl (fun n d => n * 16 + d) 0, c.forward width)

/-- The character that a one-letter escape of a double quoted scalar stands for. -/
def escaped? (c : Char) : Option Char :=
  match c with
  | '0' => some '\x00'
  | 'a' => some '\x07'
  | 'b' => some '\x08'
  | 't' | '\t' => some '\t'
  | 'n' => some '\n'
  | 'v' => some '\x0b'
  | 'f' => some '\x0c'
  | 'r' => some '\r'
  | 'e' => some '\x1b'
  | ' ' | '"' | '\\' | '/' => some c
  | 'N' => some (Char.ofNat 0x85)
  | '_' => some (Char.ofNat 0xA0)
  | 'L' => some (Char.ofNat 0x2028)
  | 'P' => some (Char.ofNat 0x2029)
  | _ => none

/-- The number of hexadecimal digits behind an escape letter. -/
def escapeWidth? (c : Char) : Option Nat :=
  match c with
  | 'x' => some 2
  | 'u' => some 4
  | 'U' => some 8
  | _ => none

/-- The blank lines inside a quoted scalar. -/
def quotedBreaks : Nat → Cursor → Except Stop (Text × Cursor)
  | 0, c => c.fail
  | fuel + 1, c => do
    c.need 3
    if c.seesMarker then (c.forward 3).fail
    let c := c.skipWhile fun x => x == ' ' || x == '\t'
    match c.takeBreak with
    | ([], _) => return ([], c)
    | (b, c) =>
      let (bs, c) ← quotedBreaks fuel c
      return (b ++ bs, c)

/-- The fold of the blanks at this place: a single line break is a space, further
ones are kept. -/
def quotedSpaces (c : Cursor) : Except Stop (Text × Cursor) := do
  let (blanks, c) := c.takeWhile fun x => x == ' ' || x == '\t'
  if c.atEnd then c.fail
  match c.takeBreak with
  | ([], _) => return (blanks, c)
  | (b, c) =>
    let (bs, c) ← quotedBreaks (c.rest.length + 1) c
    let first : Text := if b ≠ ['\n'] then b else if bs.isEmpty then [' '] else []
    return (first ++ bs, c)

def codesOf (t : Text) : List Nat :=
  t.map (·.toNat)

/-- A number as that of a character. -/
def codeOf (n : Nat) : Except Fault Nat :=
  if n > 0x7FFFFFFF then .error .tooLarge
  else if n > 0x10FFFF then .error (.noSuchValue "chr() arg not in range(0x110000)")
  else .ok n

def escapeSequence (c : Cursor) : Except Stop (List Nat × Cursor) := do
  match c.peek with
  | none => c.fail
  | some x =>
    if let some y := escaped? x then return ([y.toNat], c.advance)
    if let some width := escapeWidth? x then
      let (n, c) ← takeHex width c.advance
      let code ← (codeOf n).mapError .fault
      return ([code], c)
    if isBreak x then
      let (t, c) ← quotedBreaks (c.rest.length + 1) c.takeBreak.2
      return (codesOf t, c)
    else c.fail

/-- The inside of a quoted scalar up to its closing quote. -/
def quotedInside (double : Bool) : Nat → Cursor → Except Stop (List Nat × Cursor)
  | 0, c => c.fail
  | fuel + 1, c => do
    let quote := if double then '"' else '\''
    match c.peek with
    | none => c.fail
    | some x =>
      let (part, c, done) ←
        if x == ' ' || x == '\t' || isBreak x then do
          let (t, c) ← quotedSpaces c
          pure (codesOf t, c, false)
        else if x == quote then
          if !double && c.sees '\'' 1 then pure ([x.toNat], c.forward 2, false)
          else pure ([], c.advance, true)
        else if double && x == '\\' then do
          let (codes, c) ← escapeSequence c.advance
          pure (codes, c, false)
        else pure ([x.toNat], c.advance, false)
      if done then return ([], c)
      let (rest, c) ← quotedInside double fuel c
      return (part ++ rest, c)

/-- What a scalar says: a text, or a broken one in which an escape stands for half of a pair of
surrogates. -/
inductive ScalarText
  | whole (t : Text)
  | broken (codes : List Nat)
  deriving DecidableEq, Repr

def ScalarText.ofCodes (codes : List Nat) : ScalarText :=
  if codes.any Value.isHalf then .broken codes else .whole (codes.map Char.ofNat)

def quotedScalar (double : Bool) (c : Cursor) : Except Stop (ScalarText × Cursor) := do
  let (codes, c) ← quotedInside double (c.rest.length + 1) c.advance
  return (.ofCodes codes, c)

/-- The blank lines and indentation behind a line of a plain scalar; `none` where a
document marker ends the scalar. -/
def plainBreaks : Nat → Cursor → Option Text × Cursor
  | 0, c => (none, c)
  | fuel + 1, c =>
    if c.seesMarker then (none, c)
    else
      let c := c.skipWhile (· == ' ')
      match c.takeBreak with
      | ([], _) => (some [], c)
      | (b, c) =>
        let (bs, c) := plainBreaks fuel c
        (bs.map (b ++ ·), c)

/-- The blanks between two parts of a plain scalar, folded; empty where the scalar
ends. The flag tells whether a line was ended. -/
def plainSpaces (c : Cursor) : Text × Bool × Cursor :=
  let (blanks, c) := c.takeWhile (· == ' ')
  match c.takeBreak with
  | ([], _) => (blanks, false, c)
  | (b, c) =>
    let (bs, c) := plainBreaks (c.rest.length + 1) c
    match bs with
    | none => ([], true, c)
    | some bs =>
      let first : Text := if b ≠ ['\n'] then b else if bs.isEmpty then [' '] else []
      (first ++ bs, true, c)

def isFlowIndicator (c : Char) : Bool :=
  c == ',' || c == '[' || c == ']' || c == '\x7b' || c == '\x7d'

/-- The number of characters before a plain scalar pauses. -/
def plainLength (inFlow : Bool) : Text → Nat
  | [] => 0
  | x :: xs =>
    let gap := fun y => y == ' ' || y == '\t' || isBreak y
    let pauses := gap x ||
      (x == ':' && xs.head?.all (fun y => gap y || (inFlow && isFlowIndicator y))) ||
      (inFlow && (x == '?' || isFlowIndicator x))
    if pauses then 0 else plainLength inFlow xs + 1

/-- A plain scalar; lines of it are indented at least by `indent`. The flag tells
whether it ended with a line. -/
def plainParts (inFlow : Bool) (indent : Nat) : Nat → Text → Bool → Cursor → Text × Bool × Cursor
  | 0, _, ended, c => ([], ended, c)
  | fuel + 1, spaces, ended, c =>
    let n := if c.sees '#' then 0 else plainLength inFlow c.rest
    if n = 0 then ([], ended, c)
    else
      let part := c.rest.take n
      let (spaces', ended', c) := plainSpaces (c.forward n)
      if spaces'.isEmpty || c.sees '#' || (!inFlow && decide (c.column < indent)) then
        (spaces ++ part, ended', c)
      else
        let (rest, ended'', c) := plainParts inFlow indent fuel spaces' ended' c
        (spaces ++ part ++ rest, ended'', c)

def plainScalar (inFlow : Bool) (indent : Nat) (c : Cursor) : Text × Bool × Cursor :=
  plainParts inFlow indent (c.rest.length + 1) [] false c

/-- What a block scalar keeps of the line breaks at its end. -/
inductive Chomping
  | strip
  | clip
  | keep
  deriving DecidableEq

def chomping? (c : Cursor) : Option Chomping :=
  if c.sees '+' then some .keep else if c.sees '-' then some .strip else none

def indentDigit? (c : Cursor) : Option Nat :=
  match c.peek with
  | some x => if '0' ≤ x ∧ x ≤ '9' then some (x.toNat - 48) else none
  | none => none

/-- The indicators behind the style character: chomping and indentation in either
order. -/
def blockIndicators (c : Cursor) : Except Stop ((Chomping × Option Nat) × Cursor) := do
  let (chomp, increment, c) := match chomping? c with
    | some chomp =>
      match indentDigit? c.advance with
      | some n => (chomp, some n, c.advance.advance)
      | none => (chomp, none, c.advance)
    | none =>
      match indentDigit? c with
      | some n =>
        match chomping? c.advance with
        | some chomp => (chomp, some n, c.advance.advance)
        | none => (.clip, some n, c.advance)
      | none => (.clip, none, c)
  if increment = some 0 then .error (.fault .unreadable)
  if !(c.endsAt || c.sees ' ') then c.fail
  return ((chomp, increment), c)

/-- The rest of a line that holds nothing but blanks and perhaps a comment. -/
def ignoredLine (c : Cursor) : Except Stop Cursor :=
  let c := c.skipWhile (· == ' ')
  let c := if c.sees '#' then c.skipWhile (!isBreak ·) else c
  if c.endsAt then .ok c.takeBreak.2 else c.fail

/-- The empty lines before a block scalar and the deepest indentation among them and
its first line. -/
def blockIndentation : Nat → Nat → Cursor → List Text × Nat × Cursor
  | 0, deepest, c => ([], deepest, c)
  | fuel + 1, deepest, c =>
    if c.sees ' ' then
      let c := c.advance
      blockIndentation fuel (max deepest c.column) c
    else match c.takeBreak with
      | ([], _) => ([], deepest, c)
      | (b, c) =>
        let (bs, deepest, c) := blockIndentation fuel deepest c
        (b :: bs, deepest, c)

/-- Up to `indent` columns of blanks. -/
def skipIndent (indent : Nat) (c : Cursor) : Cursor :=
  let run := (c.rest.takeWhile (· == ' ')).length
  c.forward (min run (indent - c.column))

def blockBreaks (indent : Nat) : Nat → Cursor → List Text × Cursor
  | 0, c => ([], c)
  | fuel + 1, c =>
    let c := skipIndent indent c
    match c.takeBreak with
    | ([], _) => ([], c)
    | (b, c) =>
      let (bs, c) := blockBreaks indent fuel c
      (b :: bs, c)

/-- The lines of a block scalar from the first one with content on: the text, the
last line break, and the empty lines behind it. -/
def blockLines (folded : Bool) (indent : Nat) : Nat → List Text → Cursor → Text × Text × List Text × Cursor
  | 0, breaks, c => ([], [], breaks, c)
  | fuel + 1, breaks, c =>
    let plainStart := fun (c : Cursor) => !(c.sees ' ' || c.sees '\t')
    let (line, after) := c.takeWhile (!isBreak ·)
    let (b, after) := after.takeBreak
    let (bs, after) := blockBreaks indent (after.rest.length + 1) after
    if after.column = indent ∧ !after.atEnd then
      let fold := folded && b == ['\n'] && plainStart c && plainStart after
      let joint : Text := if fold then (if bs.isEmpty then [' '] else []) else b
      let (rest, final, tail, after) := blockLines folded indent fuel bs after
      (breaks.flatten ++ line ++ joint ++ rest, final, tail, after)
    else (breaks.flatten ++ line, b, bs, after)

/-- A block scalar in a block that is indented by `parent`, or at the top level. -/
def blockScalar (folded : Bool) (parent : Option Nat) (c : Cursor) : Except Stop (Text × Cursor) := do
  let ((chomp, increment), c) ← blockIndicators c.advance
  let c ← ignoredLine c
  let least := max 1 (parent.elim 0 (· + 1))
  let fuel := c.rest.length + 1
  let (breaks, indent, c) := match increment with
    | some n =>
      let indent := least + n - 1
      let (breaks, c) := blockBreaks indent fuel c
      (breaks, indent, c)
    | none =>
      let (breaks, deepest, c) := blockIndentation fuel 0 c
      (breaks, max least deepest, c)
  let (body, final, tail, c) :=
    if c.column = indent ∧ !c.atEnd then blockLines folded indent fuel breaks c
    else ([], [], breaks, c)
  let ending : Text := match chomp with
    | .strip => []
    | .clip => final
    | .keep => final ++ tail.flatten
  return (body ++ ending, c)

end ViewCases.Yaml
