import ViewCases.EnumFile
import ViewCases.FileTree.Change
import ViewCases.FileTree.Glob

/-! Generated files on their way into a directory. The directory is made if it is
missing, earlier output is removed on request, and then the files that succeeded are
written in order. -/
namespace ViewCases
open Text

/-- Where generated files go. `fileExtension` tells which files are earlier output. -/
structure Destination where
  directory : Path
  removesEarlier : Bool
  fileExtension : Text
  deriving DecidableEq, Repr

inductive OutputFault
  | atPath (fault : PathFault) (path : Path)
  | badPattern (fault : PathPattern.Fault)
  deriving DecidableEq, Repr

def PathFault.message : PathFault → Text
  | .missing => "[Errno 2] No such file or directory"
  | .occupied => "[Errno 17] File exists"
  | .notADirectory => "[Errno 20] Not a directory"
  | .isADirectory => "[Errno 21] Is a directory"
  | .tooLong => "[Errno 36] File name too long"
  | .holdsNull => "embedded null byte"

def OutputFault.message : OutputFault → Text
  | .atPath .holdsNull _ => PathFault.holdsNull.message
  | .atPath fault path => fault.message ++ ": " ++ quoted path.text
  | .badPattern fault => fault.message

structure Output where
  tree : FileTree
  written : Except OutputFault (List Path)

namespace Output

def clean (d : Destination) (tree : FileTree) : Except OutputFault FileTree := do
  let pattern ← (PathPattern.ofText ('*' :: d.fileExtension)).mapError .badPattern
  match tree.locate d.directory with
  | .ok place => (tree.eraseFiles place pattern).mapError fun fault => .atPath fault d.directory
  | .error _ => return tree

def pathOf (d : Destination) (u : EnumFile) : Path :=
  d.directory.join (.ofText u.fileName)

/-- Writes the files in order, up to the first that cannot be written. -/
def writeUnits (d : Destination) (tree : FileTree) : List EnumFile → Output
  | [] => ⟨tree, .ok []⟩
  | u :: us =>
    let path := pathOf d u
    match tree.write path (Utf8.encode u.source) with
    | .error fault => ⟨tree, .error (.atPath fault path)⟩
    | .ok tree' =>
      let rest := writeUnits d tree' us
      ⟨rest.tree, rest.written.map (path :: ·)⟩

def write (d : Destination) (tree : FileTree) (units : List EnumFile) : Output :=
  match tree.makeDirectory d.directory with
  | (made, some fault) => ⟨made, .error (.atPath fault d.directory)⟩
  | (made, none) =>
    match if d.removesEarlier then clean d made else .ok made with
    | .error fault => ⟨made, .error fault⟩
    | .ok cleaned => writeUnits d cleaned (units.filter (·.isSuccessful))

end Output
end ViewCases
