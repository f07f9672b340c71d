import ViewCases.FileTree.Path
import ViewCases.Text.Utf8
import ViewCases.Text.Blank

/-! A tree of files below a working directory. Every entry stands under its place, the
list of names that leads to it. Of what lies outside the working directory only the
way up and the root are known, and those are directories. -/
namespace ViewCases
open Text

inductive Entry
  | directory
  | file (content : List UInt8)
  deriving DecidableEq, Repr

/-- The names that lead from the working directory to an entry. Outside it the list
begins with double dots or with a slash. -/
abbrev Place := List Text

structure FileTree where
  entries : List (Place × Entry) := []
  deriving DecidableEq, Repr

/-- Why a path leads nowhere, or why nothing can be made where it leads. -/
inductive PathFault
  | missing
  | notADirectory
  | isADirectory
  | occupied
  | tooLong
  | holdsNull
  deriving DecidableEq, Repr

namespace FileTree

/-- The working directory, a directory above it, or the root. -/
def isBase (place : Place) : Bool :=
  place.all (· = ['.', '.']) || place == [['/']]

def get? (tree : FileTree) (place : Place) : Option Entry :=
  if isBase place then some .directory else (tree.entries.find? fun e => e.1 = place).map (·.2)

/-- The tree with `entry` at `place`; an entry keeps its position. -/
def put (place : Place) (entry : Entry) (tree : FileTree) : FileTree :=
  if tree.entries.any fun e => e.1 = place then
    ⟨tree.entries.map fun e => if e.1 = place then (place, entry) else e⟩
  else ⟨tree.entries ++ [(place, entry)]⟩

def erase (place : Place) (tree : FileTree) : FileTree :=
  ⟨tree.entries.filter fun e => e.1 ≠ place⟩

/-- One name further. Double dots lead up, and there is nothing above the root. -/
def Place.enter (place : Place) (name : Text) : Place :=
  if name = ['.', '.'] then
    if place = [['/']] then place
    else if isBase place then place ++ [name]
    else place.dropLast
  else place ++ [name]

/-- Where `names` lead from `place`. All but the last of them must lead to
directories; at the place itself there may be nothing. A name is looked at only once the
way to it is known. -/
def follow (tree : FileTree) (place : Place) : List Text → Except PathFault Place
  | [] => .ok place
  | name :: names =>
    match tree.get? place with
    | none => .error .missing
    | some (.file _) => .error .notADirectory
    | some .directory =>
      if Path.isLongName name then .error .tooLong
      else tree.follow (Place.enter place name) names

/-- What is wrong with a path text whatever the tree. -/
def textFault? (t : Text) : Option PathFault :=
  if t.contains '\x00' then some .holdsNull
  else if Path.isLong t then some .tooLong
  else none

/-- Where a path starts. -/
def Place.start (p : Path) : Place :=
  if p.root.isEmpty then [] else [['/']]

def locate (tree : FileTree) (p : Path) : Except PathFault Place :=
  match textFault? p.text with
  | some fault => .error fault
  | none => tree.follow (Place.start p) p.parts

def find? (tree : FileTree) (p : Path) : Option Entry :=
  match tree.locate p with
  | .ok place => tree.get? place
  | .error _ => none

def content? (tree : FileTree) (p : Path) : Option (List UInt8) :=
  match tree.find? p with
  | some (.file content) => some content
  | _ => none

def contentAt? (tree : FileTree) (t : Text) : Option (List UInt8) :=
  if Path.namesDirectory t || (textFault? t).isSome then none else tree.content? (Path.ofText t)

def isDirectory (tree : FileTree) (p : Path) : Bool :=
  tree.find? p = some .directory

/-- The text in a file, every line ended by a newline alone. -/
def textOf (content : List UInt8) : Except Utf8.Fault Text :=
  unifyNewlines <$> Utf8.decode content

/-- The places directly in a directory. -/
def children (tree : FileTree) (place : Place) : List Place :=
  (tree.entries.map (·.1)).filter fun q => !q.isEmpty && q.dropLast == place

/-- Whether a place is inside the working directory. -/
def isInside (place : Place) : Bool :=
  !(place.head?.any fun name => name = ['.', '.'] || name = ['/'])

/-- An entry's path text; that of a directory ends in a slash. -/
def label (e : Place × Entry) : Text :=
  joinWith "/" e.1 ++ if e.2 = .directory then ['/'] else []

/-- The entries inside the working directory, by the order of their labels. -/
def listing (tree : FileTree) : List (Text × Entry) :=
  ((tree.entries.filter fun e => isInside e.1).map fun e => (label e, e.2)).mergeSort
    fun a b => atMost a.1 b.1

end FileTree
end ViewCases
