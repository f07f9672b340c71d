import ViewCases.Bracket.Basic

/-! Scans that respect nesting: the first token outside all brackets, the partner
of an opening bracket, the segments between top-level separators, and the text
inside one enclosing pair. -/
namespace ViewCases.Bracket

/-- Whether `prev` makes an equals sign behind it part of a comparison. -/
def comparisonLead (prev : Option Char) : Bool :=
  prev == some '!' || prev == some '<' || prev == some '>'

/-- The position of the first `token` at depth zero. An equals sign on its own
does not match inside `==`, of which `second` marks the second half, nor behind
the first character of another comparison. A closing bracket at depth zero is
passed over. -/
def findFrom (token : Text) (second : Bool) (prev : Option Char) (depth pos : Nat) :
    Text → Option Nat
  | [] => none
  | c :: cs =>
    if second then findFrom token false (some c) depth (pos + 1) cs
    else if depth = 0 ∧ token.isPrefixOf (c :: cs) then
      if token = ['='] ∧ cs.head? = some '=' then findFrom token true (some c) 0 (pos + 1) cs
      else if token = ['='] ∧ comparisonLead prev then
        findFrom token false (some c) 0 (pos + 1) cs
      else some pos
    else if isOpener c then findFrom token false (some c) (depth + 1) (pos + 1) cs
    else if isCloser c && !arrowHead prev c then
      findFrom token false (some c) (depth - 1) (pos + 1) cs
    else findFrom token false (some c) depth (pos + 1) cs

/-- The position of the first `token` outside all brackets, at or behind `start`.
Depth counts from `start`. -/
def findTopLevel (token : Text) (t : Text) (start : Nat := 0) : Option Nat :=
  findFrom token false (t.take start).getLast? 0 start (t.drop start)

/-- The position of the closing bracket that brings the depth of kind `b` back to
zero. -/
def partnerFrom (b : Bracket) (prev : Option Char) (depth pos : Nat) : Text → Option Nat
  | [] => none
  | c :: cs =>
    if c = b.opener then partnerFrom b (some c) (depth + 1) (pos + 1) cs
    else if b.closes prev c then
      if depth = 1 then some pos
      else partnerFrom b (some c) (depth - 1) (pos + 1) cs
    else partnerFrom b (some c) depth (pos + 1) cs

/-- The partner of the bracket of kind `b` with which the text begins. Only
brackets of that kind count. -/
def partner? (b : Bracket) (t : Text) : Option Nat :=
  partnerFrom b none 0 0 t

inductive ScanError
  | pastEnd
  | notAnOpener
  deriving DecidableEq, Repr

/-- The partner of the opening bracket at position `i`, if it is ever closed. -/
def findMatching (t : Text) (i : Nat) : Except ScanError (Option Nat) :=
  match t.drop i with
  | [] => .error .pastEnd
  | c :: cs =>
    match ofOpener? c with
    | none => .error .notAnOpener
    | some b => .ok ((b.partner? (c :: cs)).map (i + ·))

/-- The nesting of each kind at a position, negative where closers lead. -/
structure Levels where
  angle : Int := 0
  paren : Int := 0
  square : Int := 0
  brace : Int := 0
  deriving DecidableEq, Repr

namespace Levels

def ofKind (l : Levels) : Bracket → Int
  | .angle => l.angle
  | .paren => l.paren
  | .square => l.square
  | .brace => l.brace

def isFlat (l : Levels) : Bool :=
  l.angle == 0 && l.paren == 0 && l.square == 0 && l.brace == 0

def step (l : Levels) (prev : Option Char) (c : Char) : Levels :=
  let move (b : Bracket) : Int :=
    l.ofKind b + if c = b.opener then 1 else if b.closes prev c then -1 else 0
  ⟨move .angle, move .paren, move .square, move .brace⟩

end Levels

/-- Whether `c` is a bracket where it stands. The head of an arrow is none. -/
def isBracket (prev : Option Char) (c : Char) : Bool :=
  isOpener c || (isCloser c && !arrowHead prev c)

/-- The untrimmed segments; there is always one. A separator counts where all
kinds are level, and a bracket never counts as one. -/
def segmentsFrom (isSeparator : Char → Bool) (prev : Option Char) (l : Levels) :
    Text → List Text
  | [] => [[]]
  | c :: cs =>
    if !isBracket prev c && isSeparator c && l.isFlat then
      [] :: segmentsFrom isSeparator (some c) l cs
    else match segmentsFrom isSeparator (some c) (l.step prev c) cs with
      | [] => [[c]]
      | segment :: segments => (c :: segment) :: segments

/-- The trimmed segments between separators outside all brackets. A blank text
has none. -/
def splitTopLevelBy (isSeparator : Char → Bool) (t : Text) : List Text :=
  if t.all Text.isBlank then [] else (segmentsFrom isSeparator none {} t).map Text.strip

def splitTopLevel (t : Text) : List Text :=
  splitTopLevelBy (· == ',') t

/-- The text inside the pair that encloses the whole trimmed text, if the text
begins with `lead` and such a pair exists. -/
def enclosed (lead : Text) (t : Text) : Except ScanError (Option Text) :=
  let s := Text.strip t
  if lead.isPrefixOf s then do
    let close ← findMatching s 0
    return if close = some (s.length - 1) then some (s.drop 1).dropLast else none
  else .ok none

/-- The text inside parentheses that enclose the whole trimmed text. -/
def insideParens? (t : Text) : Option Text :=
  match Text.strip t with
  | '(' :: rest =>
    if partner? .paren ('(' :: rest) = some rest.length then some rest.dropLast else none
  | _ => none

theorem segmentsFrom_ne_nil (p : Char → Bool) (prev : Option Char) (l : Levels) (t : Text) :
    segmentsFrom p prev l t ≠ [] := by
  cases t with
  | nil => simp [segmentsFrom]
  | cons c cs =>
    unfold segmentsFrom
    split
    · simp
    · split <;> simp

theorem length_of_mem_segmentsFrom {p : Char → Bool} {prev : Option Char} {l : Levels}
    {t s : Text} (h : s ∈ segmentsFrom p prev l t) : s.length ≤ t.length := by
  induction t generalizing prev l s with
  | nil => simp [segmentsFrom] at h; simp [h]
  | cons c cs ih =>
    unfold segmentsFrom at h
    split at h
    · rcases List.mem_cons.1 h with h | h
      · simp [h]
      · exact Nat.le_succ_of_le (ih h)
    · split at h
      · next he => exact absurd he (segmentsFrom_ne_nil _ _ _ _)
      · next he =>
        rcases List.mem_cons.1 h with h | h
        · subst h
          exact Nat.succ_le_succ (ih (he ▸ List.mem_cons_self))
        · exact Nat.le_succ_of_le (ih (he ▸ List.mem_cons_of_mem _ h))

theorem length_of_mem_splitTopLevel {t s : Text} (h : s ∈ splitTopLevel t) :
    s.length ≤ t.length := by
  unfold splitTopLevel splitTopLevelBy at h
  split at h
  · simp at h
  · obtain ⟨u, hu, rfl⟩ := List.mem_map.1 h
    exact Nat.le_trans (Text.length_strip_le u) (length_of_mem_segmentsFrom hu)

theorem partnerFrom_lt {b : Bracket} {prev : Option Char} {depth pos i : Nat} {t : Text}
    (h : partnerFrom b prev depth pos t = some i) : pos ≤ i ∧ i < pos + t.length := by
  induction t generalizing prev depth pos with
  | nil => simp [partnerFrom] at h
  | cons c cs ih =>
    unfold partnerFrom at h
    simp only [List.length_cons]
    split at h
    · have := ih h; omega
    · split at h
      · split at h
        · simp at h; omega
        · have := ih h; omega
      · have := ih h; omega

theorem length_insideParens? {t s : Text} (h : insideParens? t = some s) :
    s.length < (Text.strip t).length := by
  unfold insideParens? at h
  split at h
  · next rest heq =>
    split at h
    · have hs : rest.dropLast = s := by simpa using h
      have hl : rest.dropLast.length = rest.length - 1 := List.length_dropLast
      rw [heq, ← hs, hl, List.length_cons]
      omega
    · simp at h
  · simp at h

theorem findFrom_bounds {token : Text} {second : Bool} {prev : Option Char}
    {depth pos i : Nat} {t : Text} (h : findFrom token second prev depth pos t = some i) :
    pos ≤ i ∧ i < pos + t.length := by
  induction t generalizing second prev depth pos with
  | nil => simp [findFrom] at h
  | cons c cs ih =>
    unfold findFrom at h
    simp only [List.length_cons]
    split at h
    · have := ih h; omega
    · split at h
      · split at h
        · have := ih h; omega
        · split at h
          · have := ih h; omega
          · simp at h; omega
      · split at h
        · have := ih h; omega
        · split at h
          · have := ih h; omega
          · have := ih h; omega

theorem findTopLevel_lt {token t : Text} {start i : Nat}
    (h : findTopLevel token t start = some i) : start ≤ i ∧ i < t.length := by
  have := findFrom_bounds h
  simp at this
  omega

end ViewCases.Bracket
