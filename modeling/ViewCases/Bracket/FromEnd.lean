import ViewCases.Bracket.Scan

/-! Scans from a position that counts from the end of the text where it is negative.
Such a scan reads the last characters first and then the whole text from its front.
Before the front nothing counts as the character before another one, so no arrow has
its head there and no comparison its lead. -/
namespace ViewCases.Bracket

/-- What a scan over the last characters of a text comes to: a place so many
characters before the end, or the depth behind the last character. -/
inductive TailScan
  | found (left : Nat)
  | passed (depth : Nat)
  deriving DecidableEq, Repr

/-- The first `token` at depth zero among the last characters of a text. `second`
marks the second half of a doubled equals sign. -/
def findTail (token : Text) (second : Bool) (depth : Nat) : Text → TailScan
  | [] => .passed depth
  | c :: cs =>
    if second then findTail token false depth cs
    else if depth = 0 ∧ token.isPrefixOf (c :: cs) then
      if token = ['='] ∧ cs.head? = some '=' then findTail token true 0 cs
      else .found (cs.length + 1)
    else if isOpener c then findTail token false (depth + 1) cs
    else if isCloser c then findTail token false (depth - 1) cs
    else findTail token false depth cs

/-- The first `token` outside all brackets from the last `back` characters on. -/
def findFromEnd (token t : Text) (back : Nat) : Option Int :=
  match findTail token false 0 (t.drop (t.length - back)) with
  | .found left => some (-left)
  | .passed depth => (findFrom token false none depth 0 t).map Int.ofNat

/-- The first `token` outside all brackets from `start` on, a place before the front
where it stands among the last characters. A start further back than the text is long
is an error, unless the text begins with the token: then the token stands at the start
itself, and an equals sign that is doubled there is passed over two places at a time. -/
def findTopLevelFrom (token t : Text) (start : Int) : Except ScanError (Option Int) :=
  let back := (-start).toNat
  if 0 ≤ start then .ok ((findTopLevel token t start.toNat).map Int.ofNat)
  else if back ≤ t.length then .ok (findFromEnd token t back)
  else if token.isPrefixOf t then
    if token = ['='] ∧ ['=', '='].isPrefixOf t then
      .ok (findFromEnd token t (t.length - (back - t.length) % 2))
    else .ok (some start)
  else .error .pastEnd

/-- The closing bracket among the last characters of a text that brings the depth of
kind `b` back to zero. -/
def partnerTail (b : Bracket) (depth : Nat) : Text → TailScan
  | [] => .passed depth
  | c :: cs =>
    if c = b.opener then partnerTail b (depth + 1) cs
    else if c = b.closer then
      if depth = 1 then .found (cs.length + 1) else partnerTail b (depth - 1) cs
    else partnerTail b depth cs

/-- The partner of the opening bracket at position `i`, if it is ever closed. The
partner of one among the last characters may stand further on at the front. -/
def findMatchingFrom (t : Text) (i : Int) : Except ScanError (Option Int) :=
  let back := (-i).toNat
  if 0 ≤ i then (findMatching t i.toNat).map fun place => place.map Int.ofNat
  else if t.length < back then .error .pastEnd
  else match t.drop (t.length - back) with
  | [] => .error .pastEnd
  | c :: cs =>
    match ofOpener? c with
    | none => .error .notAnOpener
    | some b =>
      match partnerTail b 0 (c :: cs) with
      | .found left => .ok (some (-left))
      | .passed depth => .ok ((partnerFrom b none depth 0 t).map Int.ofNat)

theorem findTopLevelFrom_natCast (token t : Text) (start : Nat) :
    findTopLevelFrom token t start = .ok ((findTopLevel token t start).map Int.ofNat) := by
  simp [findTopLevelFrom]

theorem findMatchingFrom_natCast (t : Text) (i : Nat) :
    findMatchingFrom t i = (findMatching t i).map fun place => place.map Int.ofNat := by
  simp [findMatchingFrom]

end ViewCases.Bracket
