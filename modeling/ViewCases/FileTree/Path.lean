import ViewCases.Text.Utf8

/-! Paths in normal form. Empty parts and single dots are dropped; double dots stay,
because the directory in front of one need not exist. No path holds the null character,
and there are bounds on the bytes of a name and of a whole path. -/
namespace ViewCases
open Text

/-- A path. `root` is empty for a relative path, otherwise one slash or two. -/
structure Path where
  root : Text
  parts : List Text
  deriving DecidableEq, Repr

namespace Path

/-- Whether a part of a path text names something. -/
def isName (part : Text) : Bool :=
  !part.isEmpty && part != ['.']

/-- Exactly two slashes in front are a root of their own. -/
def rootOf (t : Text) : Text :=
  match (t.takeWhile (· = '/')).length with
  | 0 => []
  | 2 => ['/', '/']
  | _ => ['/']

def ofText (t : Text) : Path :=
  ⟨rootOf t, (splitBy (· = '/') t).filter isName⟩

def text (p : Path) : Text :=
  if p.root.isEmpty && p.parts.isEmpty then ['.'] else p.root ++ joinWith "/" p.parts

/-- The path `q` seen from `p`. -/
def join (p q : Path) : Path :=
  if q.root.isEmpty then ⟨p.root, p.parts ++ q.parts⟩ else q

/-- Whether a path text can name a directory only: it ends in a slash or a dot part,
or is empty. -/
def namesDirectory (t : Text) : Bool :=
  (splitBy (· = '/') t).getLast?.any (!isName ·)

def mostInName : Nat := 255

def mostInPath : Nat := 4095

def isLongName (name : Text) : Bool :=
  mostInName < (Utf8.encode name).length

def isLong (t : Text) : Bool :=
  mostInPath < (Utf8.encode t).length

theorem join_parts_of_relative {p q : Path} (h : q.root = []) :
    (p.join q).parts = p.parts ++ q.parts := by
  simp [join, h]

end Path
end ViewCases
