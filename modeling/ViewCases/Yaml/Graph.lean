import ViewCases.Yaml.Tag
import ViewCases.Yaml.Token

/-! The nodes of a YAML document. Nodes refer to one another by number, so that an alias
is the node of its anchor, also inside that node itself. A text holds at most one
document. -/
namespace ViewCases.Yaml

abbrev NodeId := Nat

/-- The tag of a scalar whose text decides. -/
def ScalarText.tag : ScalarText → Tag
  | .whole t => .ofPlain t
  | .broken _ => .text

inductive Node
  | scalar (tag : Tag) (text : ScalarText)
  | sequence (tag : Tag) (items : List NodeId)
  | mapping (tag : Tag) (entries : List (NodeId × NodeId))
  deriving Repr

def Node.tag : Node → Tag
  | .scalar tag _ | .sequence tag _ | .mapping tag _ => tag

structure Graph where
  nodes : Array Node := #[]

namespace Graph

def get? (g : Graph) (n : NodeId) : Option Node :=
  g.nodes[n]?

def tag (g : Graph) (n : NodeId) : Tag :=
  (g.get? n).elim .other (·.tag)

def size (g : Graph) : Nat :=
  g.nodes.size

/-- The graph with one node more, whose number is its size before. -/
def add (node : Node) (g : Graph) : Graph :=
  ⟨g.nodes.push node⟩

def set (n : NodeId) (node : Node) (g : Graph) : Graph :=
  ⟨g.nodes.setIfInBounds n node⟩

end Graph

/-- What is left to read, the nodes read, the anchors seen and the tag handles in
force. -/
structure Reading where
  scanner : Scanner
  graph : Graph := {}
  anchors : List (Text × NodeId) := []
  handles : List (Text × Text) := []

abbrev Build := StateT Reading (Except Stop)

namespace Reading

def fail {α : Type} : Build α :=
  throw (.fault .unreadable)

def look : Build Token := do
  let (t, scanner) ← (← get).scanner.look
  modify fun s => { s with scanner }
  return t

def skip : Build Unit :=
  modify fun s => { s with scanner := s.scanner.skip }

/-- Skips the token `t` if it comes next, and tells whether it did. -/
def accept (t : Token) : Build Bool := do
  if (← look) = t then
    skip
    return true
  else return false

def expect (t : Token) : Build Unit := do
  if !(← accept t) then fail

def defaultHandles : List (Text × Text) :=
  [("!", "!"), ("!!", "tag:yaml.org,2002:")]

/-- The name of a tag; the lone mark that asks for no tag has none. -/
def fullTag : Option Text → Text → Build (Option Text)
  | none, suffix => return if suffix = ['!'] then none else some suffix
  | some handle, suffix => do
    match (← get).handles.lookup handle with
    | some lead => return some (lead ++ suffix)
    | none => fail

/-- The anchor and the tag in front of a node, in either order. -/
def properties : Build (Option Text × Option (Option Text × Text)) := do
  match ← look with
  | .anchor name =>
    skip
    match ← look with
    | .tag handle suffix => skip; return (some name, some (handle, suffix))
    | _ => return (some name, none)
  | .tag handle suffix =>
    skip
    match ← look with
    | .anchor name => skip; return (some name, some (handle, suffix))
    | _ => return (none, some (handle, suffix))
  | _ => return (none, none)

/-- A new node, known by its anchor from now on. No two nodes have one anchor. -/
def register (anchor : Option Text) (node : Node) : Build NodeId := do
  let s ← get
  let n := s.graph.size
  match anchor with
  | none => set { s with graph := s.graph.add node }
  | some name =>
    if (s.anchors.lookup name).isSome then fail
    set { s with graph := s.graph.add node, anchors := (name, n) :: s.anchors }
  return n

def empty : Build NodeId :=
  register none (.scalar .null (.whole []))

/-- A new collection whose content `read` gives; it may refer to the collection. -/
def collection (anchor : Option Text) (node : α → Node) (nothing : α) (read : Build α) :
    Build NodeId := do
  let n ← register anchor (node nothing)
  let content ← read
  modify fun s => { s with graph := s.graph.set n (node content) }
  return n

/-- The depth to which nodes may be nested. -/
def mostNested : Nat := 489

/-- The way down to a node: how deep it is, and whether it may be a block, or a sequence
that is indented no deeper than the mapping around it. -/
structure Level where
  depth : Nat := 0
  block : Bool := false
  indentless : Bool := false

def Level.inner (l : Level) (block : Bool) (indentless : Bool := false) : Level :=
  ⟨l.depth + 1, block, indentless⟩

mutual

def node (here : Level) : Nat → Build NodeId
  | 0 => fail
  | fuel + 1 => do
    if let .alias name ← look then
      skip
      match (← get).anchors.lookup name with
      | some n => return n
      | none => fail
    else
      let (anchor, mark) ← properties
      let name ← match mark with
        | some (handle, suffix) => fullTag handle suffix
        | none => pure none
      let tagOr (usual : Tag) : Tag := name.elim usual Tag.ofName
      let start ← look
      let sequence (items : Build (List NodeId)) : Build NodeId :=
        collection anchor (.sequence (tagOr .list)) [] items
      let mapping (entries : Build (List (NodeId × NodeId))) : Build NodeId :=
        collection anchor (.mapping (tagOr .map)) [] entries
      if mostNested < here.depth then throw (.fault .tooDeep)
      match start with
      | .scalar text plain =>
        skip
        let byText := if plain || mark.isSome then text.tag else .text
        register anchor (.scalar (tagOr byText) text)
      | .flowSequence => sequence do skip; flowItems here true fuel
      | .flowMapping => mapping do skip; flowEntries here true fuel
      | _ =>
        if here.indentless && start = .blockEntry then sequence (plainItems here fuel)
        else if here.block && start = .blockSequence then
          sequence do skip; blockItems here fuel
        else if here.block && start = .blockMapping then
          mapping do skip; blockEntries here fuel
        else if anchor.isSome || mark.isSome then
          register anchor (.scalar (tagOr .null) (.whole []))
        else fail

/-- A node, or the empty one if one of `stops` comes next. -/
def nodeBefore (stops : List Token) (here : Level) : Nat → Build NodeId
  | 0 => fail
  | fuel + 1 => do
    if stops.contains (← look) then empty else node here fuel

def blockItems (here : Level) : Nat → Build (List NodeId)
  | 0 => fail
  | fuel + 1 => do
    if ← accept .blockEntry then
      let item ← nodeBefore [.blockEntry, .blockEnd] (here.inner true) fuel
      return item :: (← blockItems here fuel)
    else
      expect .blockEnd
      return []

def plainItems (here : Level) : Nat → Build (List NodeId)
  | 0 => fail
  | fuel + 1 => do
    if ← accept .blockEntry then
      let item ← nodeBefore [.blockEntry, .key, .value, .blockEnd] (here.inner true) fuel
      return item :: (← plainItems here fuel)
    else return []

def blockEntries (here : Level) : Nat → Build (List (NodeId × NodeId))
  | 0 => fail
  | fuel + 1 => do
    if ← accept .key then
      let stops := [.key, .value, .blockEnd]
      let key ← nodeBefore stops (here.inner true true) fuel
      let value ←
        if ← accept .value then nodeBefore stops (here.inner true true) fuel else empty
      return (key, value) :: (← blockEntries here fuel)
    else
      expect .blockEnd
      return []

/-- The value behind a key between brackets; it is empty where one of `stops` comes. -/
def flowValue (stops : List Token) (here : Level) : Nat → Build NodeId
  | 0 => fail
  | fuel + 1 => do
    if ← accept .value then nodeBefore stops here fuel else empty

def flowItems (here : Level) (first : Bool) : Nat → Build (List NodeId)
  | 0 => fail
  | fuel + 1 => do
    if ← accept .flowSequenceEnd then return []
    if !first then expect .flowEntry
    if ← accept .flowSequenceEnd then return []
    let inside := here.inner false
    let item ←
      if (← look) = .key then
        collection none (.mapping .map) [] do
          skip
          let stops := [.flowEntry, .flowSequenceEnd]
          let key ← nodeBefore (.value :: stops) (inside.inner false) fuel
          return [(key, ← flowValue stops (inside.inner false) fuel)]
      else node inside fuel
    return item :: (← flowItems here false fuel)

def flowEntries (here : Level) (first : Bool) : Nat → Build (List (NodeId × NodeId))
  | 0 => fail
  | fuel + 1 => do
    if ← accept .flowMappingEnd then return []
    if !first then expect .flowEntry
    if ← accept .flowMappingEnd then return []
    let inside := here.inner false
    let entry ←
      if ← accept .key then
        let stops := [.flowEntry, .flowMappingEnd]
        let key ← nodeBefore (.value :: stops) inside fuel
        pure (key, ← flowValue stops inside fuel)
      else
        let key ← node inside fuel
        pure (key, ← empty)
    return entry :: (← flowEntries here false fuel)

end

def directives (version : Bool) : Nat → Build Unit
  | 0 => fail
  | fuel + 1 => do
    match ← look with
    | .version major _ =>
      if version || major ≠ 1 then fail
      skip
      directives true fuel
    | .tagHandle handle lead =>
      if ((← get).handles.lookup handle).isSome then fail
      modify fun s => { s with handles := (handle, lead) :: s.handles }
      skip
      directives version fuel
    | .directive =>
      skip
      directives version fuel
    | _ => modify fun s => { s with handles := s.handles ++ defaultHandles }

/-- The end of the text behind a document. -/
def finish : Nat → Build Unit
  | 0 => fail
  | fuel + 1 => do
    if ← accept .documentEnd then finish fuel
    else if (← look) = .streamEnd then return ()
    else do
      modify fun s => { s with handles := [] }
      directives false fuel
      fail

def document (fuel : Nat) : Build (Option NodeId) := do
  match ← look with
  | .streamEnd => return none
  | .version .. | .tagHandle .. | .directive | .documentStart =>
    directives false fuel
    expect .documentStart
    let root ← match ← look with
      | .version .. | .tagHandle .. | .directive | .documentStart | .documentEnd | .streamEnd =>
        empty
      | _ => node { block := true } fuel
    finish fuel
    return some root
  | _ =>
    modify fun s => { s with handles := defaultHandles }
    let root ← node { block := true } fuel
    finish fuel
    return some root

end Reading

/-- The nodes of the only document in a file and the number of its root, if there is
one. -/
def Graph.ofStream (s : Stream) : Except LoadFault (Graph × Option NodeId) := do
  let read := Reading.document (12 * s.text.length + 16)
  let (root, r) ← (read.run { scanner := .ofStream s }).mapError s.faultOf
  return (r.graph, root)

end ViewCases.Yaml
