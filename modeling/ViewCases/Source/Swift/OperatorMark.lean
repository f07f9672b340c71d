import ViewCases.Source.Cursor
import ViewCases.Source.Token

/-! Operators, and the words that act like operators: which one it is depends on what comes
behind. -/
namespace ViewCases.Source.Swift
open Text

/-- What must come behind a mark of fixed text. -/
inductive Tail
  /-- No further character of an operator. -/
  | noOperator
  /-- No further character of an operator, and no dot. -/
  | noOperatorOrDot
  | gap
  /-- No letter and no digit. -/
  | noNamePart
  deriving DecidableEq, Repr

/-- The characters that make an operator longer. -/
def isOperatorChar (c : Char) : Bool := "/=-+!*%<>&|^?~".toList.contains c

def Tail.admits : Tail → Char → Bool
  | .noOperator, c => !isOperatorChar c
  | .noOperatorOrDot, c => !isOperatorChar c && c ≠ '.'
  | .gap, c => isGap c
  | .noNamePart, c => !isNamePart c

/-- A mark of fixed text, as far as it is still to be read. -/
structure FixedMark where
  mark : Mark
  text : List Char
  tail : Tail

def fixedMarks : List FixedMark :=
  [⟨.arrow, ['-', '>'], .noOperator⟩, ⟨.dot, ['.'], .noOperatorOrDot⟩,
   ⟨.conjunction, ['&', '&'], .noOperator⟩, ⟨.disjunction, ['|', '|'], .noOperator⟩,
   ⟨.nilCoalescing, ['?', '?'], .noOperator⟩, ⟨.assign, ['='], .noOperator⟩,
   ⟨.equal, ['=', '='], .noOperator⟩, ⟨.plusThenBlank, ['+'], .gap⟩,
   ⟨.minusThenBlank, ['-'], .gap⟩, ⟨.bang, ['!'], .noOperator⟩,
   ⟨.throwsWord, "throws".toList, .noNamePart⟩, ⟨.rethrowsWord, "rethrows".toList, .noNamePart⟩,
   ⟨.defaultWord, "default".toList, .noNamePart⟩, ⟨.whereWord, "where".toList, .noNamePart⟩,
   ⟨.elseWord, "else".toList, .noNamePart⟩, ⟨.catchWord, "catch".toList, .noNamePart⟩,
   ⟨.asWord, "as".toList, .noNamePart⟩, ⟨.asOptional, "as?".toList, .noOperator⟩,
   ⟨.asForced, "as!".toList, .noOperator⟩, ⟨.asyncWord, "async".toList, .noNamePart⟩]

/-- Operators that no custom operator may be. -/
def reservedOperators : List (List Char) :=
  ["/", "=", "-", "+", "!", "*", "%", "<", ">", "&", "|", "^", "?", "~", ".", "..", "->", "/*",
   "*/", "+=", "-=", "*=", "/=", "%=", ">>", "<<", "++", "--", "===", "...", "..<"].map
    String.toList

/-- The characters above U+007F that an operator can begin with. -/
def operatorHeads : List (Nat × Nat) :=
  [(0xA1, 0xA7), (0xA9, 0xA9), (0xAB, 0xAC), (0xAE, 0xAE), (0xB0, 0xB1), (0xB6, 0xB6),
   (0xBB, 0xBB), (0xBF, 0xBF), (0xD7, 0xD7), (0xF7, 0xF7), (0x2016, 0x2017), (0x2020, 0x2027),
   (0x2030, 0x203E), (0x2041, 0x2053), (0x2055, 0x205E), (0x2190, 0x23FF), (0x2500, 0x2775),
   (0x2794, 0x2BFF), (0x2E00, 0x2E7F), (0x3001, 0x3003), (0x3008, 0x3020), (0x3030, 0x3030)]

/-- Those with which it can only go on. -/
def operatorTails : List (Nat × Nat) :=
  [(0x300, 0x36F), (0x1DC0, 0x1DFF), (0x20D0, 0x20FF), (0xFE00, 0xFE0F), (0xFE20, 0xFE2F),
   (0xE0100, 0xE01EF)]

/-- Whether a custom operator can have this character at this place. A dot needs a dot at the
beginning, and what begins like a comment is none. -/
def isCustomChar (place : Nat) (first c : Char) : Bool :=
  if c.toNat < 128 then
    "=-+!%<>&|^?~".toList.contains c ||
      (c = '.' && (place = 0 || first = '.')) ||
      ((c = '*' || c = '/') && (place ≠ 1 || first ≠ '/'))
  else inRanges operatorHeads c || (place ≠ 0 && inRanges operatorTails c)

/-- What has been read of an operator. -/
structure OperatorRun where
  /-- The fixed marks that still can come. -/
  pending : List FixedMark
  /-- What is left of the reserved operators that still can come. -/
  reserved : List (List Char)
  isCustom : Bool
  found : Option Mark
  /-- The number of characters read. -/
  count : Nat
  first : Char
  last : Char

namespace OperatorRun

/-- Before an operator, or behind its first character if that has been read. -/
def start (valid : Mark → Bool) (read : Option Char) (next : Char) : OperatorRun :=
  let left (text : List Char) : Option (List Char) := match read, text with
    | none, _ => some text
    | some c, d :: rest => if c = d then some rest else none
    | some _, [] => none
  { pending := (fixedMarks.filter (valid ·.mark)).filterMap fun m =>
      (left m.text).map fun text => { m with text }
    reserved := reservedOperators.filterMap left
    isCustom := valid .customOperator
    found := none
    count := if read.isSome then 1 else 0
    first := read.getD next
    last := read.getD next }

/-- Looks at the next character: marks that are complete are found if it may come behind them,
and the others need it. -/
def look (r : OperatorRun) (next : Char) : OperatorRun :=
  { r with
    pending := r.pending.filterMap fun m => match m.text with
      | c :: rest => if c = next then some { m with text := rest } else none
      | [] => none
    reserved := r.reserved.filterMap fun t => match t with
      | c :: rest => if c = next then some rest else none
      | [] => none
    isCustom := r.isCustom && isCustomChar r.count r.first next
    found := r.pending.foldl (fun found m =>
      if m.text.isEmpty && m.tail.admits next then some m.mark else found) r.found }

/-- Whether the characters read are a reserved operator. -/
def isReserved (r : OperatorRun) : Bool := r.reserved.any (·.isEmpty)

/-- Reads an operator to its end. `settles` says whether the end of the mark follows. -/
def read (settles : Bool) : Nat → OperatorRun → Cursor → OperatorRun × Cursor
  | 0, r, c => (r, c)
  | fuel + 1, r, c =>
    let completes := r.pending.any fun m => m.text.isEmpty && m.tail.admits c.peek
    let r := r.look c.peek
    let c := if completes && settles then c.settle else c
    if r.pending.isEmpty && !r.isCustom then (r, c)
    else
      let c := if r.pending.isEmpty && settles && r.found.isNone then c.settle else c
      let r' := { r with last := c.peek, count := r.count + 1 }
      let c := c.advance
      if r'.pending.isEmpty && !isCustomChar r'.count r'.first c.peek then (r', c)
      else read settles fuel r' c

end OperatorRun

/-- The operator at a place. `before` is a first character that has been read already, and
`settles` says whether the end of the mark follows. -/
def operatorMark? (valid : Mark → Bool) (settles : Bool) (before : Option Char) (c : Cursor) :
    Option Mark × Cursor :=
  let (r, c) := OperatorRun.read settles (c.limit + 1) (.start valid before c.peek) c
  match r.found with
  | some m => (if m = .bang && valid .tryBang then none else some m, c)
  | none =>
    if r.isCustom && !r.isReserved then
      (some .customOperator,
        if settles && (r.last ≠ '<' || isGap c.peek) then c.settle else c)
    else (none, c)

end ViewCases.Source.Swift
