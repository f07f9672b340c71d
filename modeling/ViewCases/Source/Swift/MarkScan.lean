import ViewCases.Source.Swift.OperatorMark

/-! The marks of Swift: ends of lines and statements, block comments, operators, raw strings and
directives. -/
namespace ViewCases.Source.Swift

/-- What stands at a slash. -/
inductive CommentStart
  /-- There is no slash. -/
  | none
  /-- Only the slash was read. -/
  | slash
  | unclosed
  | block
  deriving DecidableEq, Repr

/-- What was read last in a block comment, if it can be half of a bracket of a comment. -/
inductive CommentMode
  | plain | star | slash
  deriving DecidableEq, Repr

/-- The place behind the end of a block comment. Comments nest. -/
def commentEnd? (mode : CommentMode) (depth : Nat) (pos : Nat) :
    List Char → Option (Nat × List Char)
  | [] => Option.none
  | c :: rest =>
    if c = Cursor.endChar then Option.none
    else if c = '*' then
      if mode = .slash then commentEnd? .plain (depth + 1) (pos + 1) rest
      else commentEnd? .star depth (pos + 1) rest
    else if c = '/' then
      if mode ≠ .star then commentEnd? .slash depth (pos + 1) rest
      else if depth ≤ 1 then some (pos + 1, rest)
      else commentEnd? .plain (depth - 1) (pos + 1) rest
    else commentEnd? .plain depth (pos + 1) rest

def blockComment (c : Cursor) : CommentStart × Cursor :=
  if c.peek ≠ '/' then (.none, c)
  else
    let c := c.advance
    if c.peek ≠ '*' then (.slash, c)
    else
      let c := c.advance
      match commentEnd? .plain 1 c.pos c.rest with
      | some (pos, rest) => (.block, { c with pos, rest })
      | Option.none => (.unclosed, c)

/-- What white space and semicolons amount to. -/
inductive Gap
  /-- They end nothing. -/
  | plain
  /-- The mark is there, and nothing more need be read. -/
  | mark (m : Mark)
  /-- The end of a line may be a mark, unless an operator follows. -/
  | lineEnd
  /-- There is no mark. -/
  | stop

/-- Skips white space up to a semicolon; tells whether a line ended. -/
def skipGap : Nat → Bool → Cursor → Bool × Cursor
  | 0, newline, c => (newline, c)
  | fuel + 1, newline, c =>
    if isGap c.peek then
      skipGap fuel (newline || c.peek = '\n' || c.peek = '\r') c.skip.settle
    else (newline, c)

/-- Comments at the beginning of a line: the cursor behind them, or what they amount to. A block
comment is a mark of its own unless a line comment came before. -/
def skipComments : Nat → Bool → Cursor → Gap × Cursor
  | 0, _, c => (.plain, c)
  | fuel + 1, isBehindLine, c =>
    if c.peek ≠ '/' then (.plain, c)
    else
      match blockComment c with
      | (.block, c) =>
        if isBehindLine then skipComments fuel isBehindLine (c.skipWhile isGap)
        else (.mark .blockComment, c.settle)
      | (.unclosed, c) => (.stop, c)
      | (_, c) =>
        if c.peek = '/' then
          let c := c.skipWhile fun d => d ≠ '\n' && d ≠ Cursor.endChar
          skipComments fuel true (c.skipWhile isGap)
        else if isGap c.peek then (.stop, c)
        else skipComments fuel isBehindLine c

/-- Reads white space, and a semicolon behind it. The end of a line ends a statement, but not
before a question mark, a colon or a brace, and not before an operator on a line of its own. -/
def gapMark (valid : Mark → Bool) (c : Cursor) : Gap × Cursor :=
  let ends := valid .lineEnd && valid .semicolon
  let (newline, c) := skipGap c.limit false c
  if c.peek = ';' then
    if ends then (.mark .semicolon, c.advance)
    else (.plain, c)
  else if newline && c.peek = '/' then
    match skipComments (c.limit + 1) false c with
    | (.plain, c) =>
      match operatorMark? valid false Option.none c with
      | (some _, c) => (.stop, c)
      | (Option.none, c) => (if ends then .mark .lineEnd else .plain, c)
    | other => other
  else if newline && ['?', ':', '\x7b'].contains c.peek then (.plain, c)
  else if ends && newline then (.lineEnd, c)
  else (.plain, c)

/-- The operators that can begin a line without ending the statement before. -/
def joinsLines (m : Mark) : Bool :=
  m ≠ .bang && ((fixedMarks.map (·.mark)).contains m || m = .customOperator)

/-- What has been read of a directive: the words that still can come, and the longest one
found. -/
def directiveMark : Nat → List (Mark × List Char) → Mark → Cursor → Mark × Cursor
  | 0, _, found, c => (found, c)
  | fuel + 1, pending, found, c =>
    let complete := pending.find? (·.2.isEmpty)
    let c := if complete.isSome then c.settle else c
    let found := (complete.map (·.1)).getD found
    let pending := pending.filterMap fun (m, text) => match text with
      | d :: rest => if d = c.peek then some (m, rest) else Option.none
      | [] => Option.none
    if pending.isEmpty then (found, c) else directiveMark fuel pending found c.advance

def directives : List (Mark × List Char) :=
  [(.ifDirective, "if".toList), (.elseifDirective, "elseif".toList),
   (.elseDirective, "else".toList), (.endifDirective, "endif".toList)]

/-- Reads on to a number sign; the text of the mark ends before a backslash that stands before
it. Tells the last character before the number sign. -/
def rawRun : Nat → Option Char → Cursor → Option Char × Cursor
  | 0, last, c => (last, c)
  | fuel + 1, last, c =>
    if c.peek = '#' || c.peek = Cursor.endChar then (last, c)
    else
      let last := c.peek
      let c := c.advance
      rawRun fuel (some last) (if last ≠ '\\' || c.peek = '\\' then c.settle else c)

/-- Passes number signs, at most the given number of them. -/
def passHashes : Nat → Cursor → Nat × Cursor
  | 0, c => (0, c)
  | fuel + 1, c =>
    if c.peek = '#' then
      let (n, c) := passHashes fuel c.advance
      (n + 1, c)
    else (0, c)

/-- The text of a raw string up to its end or to an interpolation. -/
def rawText? (hashes : Nat) : Nat → Cursor → Option (Mark × Nat) × Cursor
  | 0, c => (Option.none, c)
  | fuel + 1, c =>
    if c.peek = Cursor.endChar then (Option.none, c)
    else
      let (last, c) := rawRun c.limit Option.none c.settle
      let (count, c) := passHashes hashes c
      if count = hashes && last = some '\\' && c.peek = '(' then (some (.rawText, hashes), c)
      else if count = hashes && last = some '"' then (some (.rawTextEnd, 0), c.settle)
      else rawText? hashes fuel c

/-- What begins with a number sign, or goes on in a raw string. `hashes` is the number of signs
that the raw string around began with, if there is one. -/
def hashMark? (valid : Mark → Bool) (hashes : Nat) (c : Cursor) :
    Option (Mark × Nat) × Cursor :=
  if !valid .rawText && !valid .ifDirective then (Option.none, c)
  else if hashes = 0 then
    let (count, c) := passHashes c.limit c
    if count = 0 then (Option.none, c)
    else if c.peek = '"' then rawText? count c.limit c.advance
    else if count = 1 then
      let (m, c) := directiveMark 8 directives .hash c.settle
      (some (m, 0), c)
    else (Option.none, c)
  else if valid .rawTextAgain then rawText? hashes c.limit c
  else (Option.none, c)

/-- The mark at a place and the number of number signs of the raw string that is open behind
it. -/
def readMark (valid : Mark → Bool) (hashes : Nat) (c : Cursor) : Option (Mark × Nat) × Cursor :=
  let (gap, c) := gapMark valid c
  let rest (isLineEnd : Bool) : Option (Mark × Nat) × Cursor :=
    let (comment, c) := blockComment c
    if comment = .block then (some (.blockComment, hashes), c.settle)
    else if comment = .unclosed then (Option.none, c)
    else
      let before := if comment = .slash then some '/' else Option.none
      let (operator, c) := operatorMark? valid (!isLineEnd) before c
      match operator, isLineEnd with
      | some m, false => (some (m, hashes), c)
      | some m, true =>
        if joinsLines m then (some (m, hashes), c.settle) else (some (.lineEnd, hashes), c)
      | Option.none, true => (some (.lineEnd, hashes), c)
      | Option.none, false => hashMark? valid hashes c
  match gap with
  | .mark m => (some (m, hashes), c)
  | .stop => (Option.none, c)
  | .plain => rest false
  | .lineEnd => rest true

/-- A mark with its place. -/
structure PlacedMark where
  mark : Mark
  start : Nat
  stop : Nat
  hashes : Nat
  deriving Repr

/-- The mark that begins behind the white space at a place, if one of the valid ones does.
`limit` is at least the number of characters from there on. -/
def markAt? (valid : Mark → Bool) (hashes : Nat) (rest : List Char) (pos limit : Nat) :
    Option PlacedMark :=
  let (found, c) := readMark valid hashes (.ofRest rest pos limit)
  found.map fun (mark, hashes) =>
    let stop := c.stop.getD c.pos
    { mark, start := min c.start stop, stop, hashes }

end ViewCases.Source.Swift
