import ViewCases.FileTree.Basic

/-! Making directories and writing files. A change that fails halfway keeps what it has
done. -/
namespace ViewCases.FileTree

def makeAt (tree : FileTree) (place : Place) : Except PathFault FileTree :=
  match tree.get? place with
  | none => .ok (tree.put place .directory)
  | some .directory => .ok tree
  | some (.file _) => .error .occupied

/-- Makes the directory to which the names lead; the last name comes first. Those
above it are made where the way is missing. -/
def makeBelow (base : Place) (tree : FileTree) : List Text → FileTree × Option PathFault
  | [] => (tree, none)
  | name :: above =>
    let names := (name :: above).reverse
    let make (t : FileTree) : FileTree × Option PathFault :=
      match t.follow base names >>= t.makeAt with
      | .ok made => (made, none)
      | .error fault => (t, some fault)
    match make tree with
    | (_, some .missing) =>
      match makeBelow base tree above with
      | (t, none) => make t
      | failed => failed
    | done => done

def makeDirectory (tree : FileTree) (p : Path) : FileTree × Option PathFault :=
  match textFault? p.text with
  | some fault => (tree, some fault)
  | none => makeBelow (Place.start p) tree p.parts.reverse

def write (tree : FileTree) (p : Path) (content : List UInt8) : Except PathFault FileTree := do
  let place ← tree.locate p
  match tree.get? place with
  | some .directory => .error .isADirectory
  | _ => .ok (tree.put place (.file content))

/-- The tree with an entry and the directories above it, for a tree given entry by
entry. -/
def add (tree : FileTree) (p : Path) (entry : Entry) : FileTree :=
  let above := (makeDirectory tree ⟨p.root, p.parts.dropLast⟩).1
  match above.locate p with
  | .ok place => if isBase place then above else above.put place entry
  | .error _ => above

def ofEntries (entries : List (Text × Entry)) : FileTree :=
  entries.foldl (fun tree e => tree.add (Path.ofText e.1) e.2) {}

end ViewCases.FileTree
