import ViewCases.FileTree.Basic

/-! Patterns for the files below a directory. A pattern is a list of parts, one for each
name on the way down. Names that begin with a dot match like all others. -/
namespace ViewCases
open Text

/-- What one place in a name must be. -/
inductive NamePattern
  | one (c : Char)
  | anyOne
  | anyRun
  | oneOf (negated : Bool) (ranges : List (Char × Char))
  deriving DecidableEq, Repr

namespace NamePattern

/-- The parts of a set between its range marks. A hyphen is such a mark unless it is
among the first `lead` characters, is the second one behind another mark, or is the last
character. -/
def setParts : Nat → Nat → Text → List Text
  | 0, _, t => [t]
  | n + 1, lead, t =>
    let part := t.take lead ++ (t.drop lead).takeWhile (· ≠ '-')
    match t.drop part.length with
    | [] => [part]
    | [c] => [part ++ [c]]
    | _ :: rest => part :: setParts n 2 rest

/-- The parts without the ranges whose ends are in the wrong order. -/
def dropEmptyRanges : List Text → List Text
  | [] => []
  | part :: parts =>
    match part.getLast?, dropEmptyRanges parts with
    | some a, (b :: more) :: others =>
      if b < a then (part.dropLast ++ more) :: others else part :: (b :: more) :: others
    | _, others => part :: others

/-- The ranges between the parts, and the single characters in them. A mark without a
character before it stands for itself. -/
def ranges : Text → List Text → List (Char × Char)
  | part, [] => part.map fun c => (c, c)
  | part, [] :: others => part.map (fun c => (c, c)) ++ ranges [] others
  | part, (b :: more) :: others =>
    match part.getLast? with
    | some a => part.dropLast.map (fun c => (c, c)) ++ (a, b) :: ranges more others
    | none => ('-', '-') :: ranges (b :: more) others

/-- The set that a text between square brackets spells. An exclamation mark in front of
what is left when the empty ranges are gone makes it the set of all other characters. -/
def ofSet (t : Text) : NamePattern :=
  let lead := if t.head? = some '!' then 2 else 1
  match dropEmptyRanges (setParts t.length lead t) with
  | ('!' :: part) :: parts => .oneOf true (ranges part parts)
  | part :: parts => .oneOf false (ranges part parts)
  | [] => .oneOf false []

/-- The set behind an opening square bracket and what follows its closing one. A closing
bracket in the first place belongs to the set. -/
def takeSet? (t : Text) : Option (NamePattern × Text) :=
  let mark := if t.head? = some '!' then 1 else 0
  let lead := t.take (mark + 1)
  let inner := (t.drop (mark + 1)).takeWhile (· ≠ ']')
  match (t.drop (mark + 1)).dropWhile (· ≠ ']') with
  | _ :: rest => if lead.length = mark + 1 then some (ofSet (lead ++ inner), rest) else none
  | [] => none

/-- The pattern that a text spells, given a bound on its length. A square bracket that
is never closed stands for itself. -/
def ofTextFrom : Nat → Text → List NamePattern
  | 0, _ | _, [] => []
  | n + 1, '*' :: rest => .anyRun :: ofTextFrom n rest
  | n + 1, '?' :: rest => .anyOne :: ofTextFrom n rest
  | n + 1, '[' :: rest =>
    match takeSet? rest with
    | some (set, behind) => set :: ofTextFrom n behind
    | none => .one '[' :: ofTextFrom n rest
  | n + 1, c :: rest => .one c :: ofTextFrom n rest

def ofText (t : Text) : List NamePattern :=
  ofTextFrom t.length t

def allows (p : NamePattern) (c : Char) : Bool :=
  match p with
  | .one d => c = d
  | .anyOne | .anyRun => true
  | .oneOf negated ranges => negated != ranges.any fun r => r.1 ≤ c && c ≤ r.2

/-- For each place what holds at it or at some later one. -/
def laterHolds : List Bool → List Bool
  | [] => []
  | b :: bs =>
    let later := laterHolds bs
    (b || later.head?.getD false) :: later

/-- Whether the patterns match the text from each of its places on, the end included. -/
def matchesEnds : List NamePattern → Text → List Bool
  | [], t => t.map (fun _ => false) ++ [true]
  | .anyRun :: ps, t => laterHolds (matchesEnds ps t)
  | p :: ps, t =>
    List.zipWith (fun c rest => p.allows c && rest) t (matchesEnds ps t).tail ++ [false]

def matchesName (ps : List NamePattern) (t : Text) : Bool :=
  (matchesEnds ps t).head?.getD false

end NamePattern

/-- One part of a pattern for paths. -/
inductive PathPattern
  | name (patterns : List NamePattern)
  | exact (name : Text)
  | up
  | anyDepth
  | directoriesOnly
  deriving DecidableEq, Repr

namespace PathPattern

/-- A part of a pattern holds a run of any depth but is more than that. -/
inductive Fault
  | depthInsideName
  deriving DecidableEq, Repr

def Fault.message (_ : Fault) : Text :=
  "Invalid pattern: '**' can only be an entire path component"

def isWild (c : Char) : Bool :=
  c == '*' || c == '?' || c == '['

def holdsDepthMark : Text → Bool
  | '*' :: '*' :: _ => true
  | _ :: rest => holdsDepthMark rest
  | [] => false

def ofPart (part : Text) : Except Fault PathPattern :=
  if part = ['*', '*'] then .ok .anyDepth
  else if part = ['.', '.'] then .ok .up
  else if holdsDepthMark part then .error .depthInsideName
  else if part.any isWild then .ok (.name (NamePattern.ofText part))
  else .ok (.exact part)

/-- The parts of a pattern. A slash at the end asks for directories. -/
def ofText (t : Text) : Except Fault (List PathPattern) := do
  let parts ← (Path.ofText t).parts.mapM ofPart
  return if t.getLast? = some '/' then parts ++ [.directoriesOnly] else parts

end PathPattern

namespace FileTree

def isDirectoryAt (tree : FileTree) (place : Place) : Bool :=
  tree.get? place = some .directory

/-- The directory at `place` and those below it, to the given depth. -/
def directoriesBelow (tree : FileTree) : Nat → Place → List Place
  | 0, place => [place]
  | depth + 1, place =>
    place :: ((tree.children place).filter tree.isDirectoryAt).flatMap
      (tree.directoriesBelow depth)

/-- No place is longer than this. -/
def depth (tree : FileTree) : Nat :=
  tree.entries.foldl (fun n e => max n e.1.length) 0

/-- The place of a name in the directory at `place`, if something stands there. No name
holds the null character, but one that is too long is a fault. -/
def step? (tree : FileTree) (place : Place) (name : Text) : Except PathFault (List Place) :=
  if name.contains '\x00' then .ok []
  else if Path.isLongName name then .error .tooLong
  else .ok ([Place.enter place name].filter fun q => (tree.get? q).isSome)

/-- The places that a pattern names from the directory at `place`. -/
def select (tree : FileTree) (place : Place) : List PathPattern → Except PathFault (List Place)
  | [] => .ok [place]
  | [.directoriesOnly] => .ok [place]
  | part :: parts => do
    let usable (q : Place) : Bool := parts.isEmpty || tree.isDirectoryAt q
    let steps ← match part with
      | .name patterns => pure ((tree.children place).filter fun q =>
          usable q && q.getLast?.any (NamePattern.matchesName patterns))
      | .exact name => (·.filter usable) <$> tree.step? place name
      | .up => pure [Place.enter place ['.', '.']]
      | .anyDepth => pure (tree.directoriesBelow tree.depth place)
      | .directoriesOnly => pure [place]
    List.flatten <$> steps.mapM fun q => tree.select q parts

/-- The tree without the files that a pattern names from the directory at `place`. -/
def eraseFiles (tree : FileTree) (place : Place) (pattern : List PathPattern) :
    Except PathFault FileTree := do
  let found ← tree.select place pattern
  return found.foldl (fun t q => if tree.isDirectoryAt q then t else t.erase q) tree

end FileTree
end ViewCases
