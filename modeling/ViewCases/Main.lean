import ViewCases.CommandLine.Run

/-! The program. It reads the files that a run can look at, hands them to the pure run,
and carries out the changes that the run made to them. -/
namespace ViewCases.Program
open CommandLine

def stringOf (t : Text) : String := String.ofList t

/-- The path of a place as seen from the working directory. -/
def pathOf (place : Place) : String :=
  match place with
  | ['/'] :: names => stringOf ('/' :: Text.joinWith ['/'] names)
  | names => stringOf (Text.joinWith ['/'] names)

/-- What stands at a place on disk. -/
def entryAt (place : Place) : IO (Option Entry) := do
  let path := (← IO.currentDir) / pathOf place
  if ← path.isDir then return some .directory
  else if ← path.pathExists then return some (.file (← IO.FS.readBinFile path).toList)
  else return none

/-- The tree with all that stands on the way from `place` along the names. -/
def loadWay (tree : FileTree) (place : Place) : List Text → IO FileTree
  | [] => return tree
  | name :: names => do
    let next := FileTree.Place.enter place name
    if FileTree.isBase next then loadWay tree next names
    else match ← entryAt next with
      | none => return tree
      | some entry => loadWay (tree.put next entry) next names

def loadPath (tree : FileTree) (p : Path) : IO FileTree :=
  loadWay tree (if p.root.isEmpty then [] else [['/']]) p.parts

/-- The tree with all that stands below a place. -/
partial def loadBelow (tree : FileTree) (place : Place) : IO FileTree := do
  let mut tree := tree
  for found in ← ((← IO.currentDir) / pathOf place).readDir do
    let next := place ++ [found.fileName.toList]
    if let some entry ← entryAt next then
      tree := tree.put next entry
      if entry = .directory then tree ← loadBelow tree next
  return tree

/-- The files at which a run with these arguments can look. -/
def loadFor (env : Environment) (input : Text) (a : Arguments) : IO FileTree := do
  let mut tree : FileTree := {}
  for t in [Settings.defaultFile, input] ++ a.config.toList do
    tree ← loadPath tree (.ofText t)
  match Settings.load tree env a.config with
  | .error _ => return tree
  | .ok s =>
    let directory := (destination s a).directory
    tree ← loadPath tree directory
    match tree.locate directory with
    | .ok place => if tree.isDirectory directory then loadBelow tree place else return tree
    | .error _ => return tree

/-- Makes the files on disk what the run made of them. -/
def apply (before after : FileTree) : IO Unit := do
  for e in before.entries do
    if (after.get? e.1).isNone then IO.FS.removeFile (pathOf e.1)
  for e in after.entries do
    if before.get? e.1 != some e.2 then
      match e.2 with
      | .directory => IO.FS.createDir (pathOf e.1)
      | .file content => IO.FS.writeBinFile (pathOf e.1) ⟨content.toArray⟩

def environment : IO Environment := do
  let mut env : Environment := []
  for name in Setting.all.filterMap Setting.variableName? do
    if let some value ← IO.getEnv (stringOf name) then env := env ++ [(name, value.toList)]
  return env

end ViewCases.Program

open ViewCases ViewCases.CommandLine ViewCases.Program in
/-- Runs the program; a fault that leaves no exit code counts as 1. -/
def main (args : List String) : IO UInt32 := do
  let arguments := args.map String.toList
  let env ← environment
  let tree ← match Arguments.parse arguments with
    | .ok (.run input a) => loadFor env input a
    | _ => pure {}
  let out := CommandLine.run tree env arguments
  apply tree out.tree
  IO.print (stringOf out.printed)
  IO.eprint (stringOf out.complaints)
  match out.exit with
  | .ok code => return code.toUInt32
  | .error fault =>
    IO.eprintln (stringOf fault.message)
    return 1
