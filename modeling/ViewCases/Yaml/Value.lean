import ViewCases.Config.Value
import ViewCases.Text.Base64
import ViewCases.Yaml.Graph
import ViewCases.Yaml.MomentText
import ViewCases.Yaml.Numeral

/-! The plain data of a YAML document. Collections are filled level by level: all that
is directly in one comes before what is in its parts, and of several faults the first in
that order counts. -/
namespace ViewCases.Yaml
open Config

/-- What is known of a node's value before its content is read: all of it, or that it is
a collection. -/
inductive Datum
  | plain (v : Value)
  | list
  | set
  | map

/-- Data under construction: the nodes, whose merge keys are carried out on the way, what
is known of their values, the entries of the mappings that were read, and the collections
still to be read. -/
structure Construction where
  graph : Graph
  data : Array (Option Datum)
  entries : Array (List (Value × NodeId))
  pending : List NodeId := []

abbrev Construct := StateT Construction (Except Fault)

namespace Construct

def fail {α : Type} : Construct α :=
  throw .unreadable

def nodeAt (n : NodeId) : Construct Node := do
  match (← get).graph.get? n with
  | some node => return node
  | none => fail

/-- The text of a scalar. A mapping with a default key stands for the value under it. -/
def textOf : Nat → NodeId → Construct ScalarText
  | 0, _ => throw .tooDeep
  | fuel + 1, n => do
    match ← nodeAt n with
    | .scalar _ t => return t
    | .sequence .. => fail
    | .mapping _ entries =>
      let graph := (← get).graph
      match entries.find? fun e => graph.tag e.1 = .default with
      | some e => textOf fuel e.2
      | none => fail

def trueWords : List Text := ["yes", "true", "on"]

def falseWords : List Text := ["no", "false", "off"]

/-- What is read off a text. A broken one has the given fault. -/
def ofWhole (fault : Fault) (read : Text → Except Fault Value) : ScalarText → Except Fault Value
  | .whole t => read t
  | .broken _ => .error fault

def textValue : ScalarText → Value
  | .whole t => .text t
  | .broken codes => .broken codes

def bool (t : Text) : Except Fault Value :=
  let word := Text.lower t
  if trueWords.contains word then .ok (.bool true)
  else if falseWords.contains word then .ok (.bool false)
  else .error .unknownTruth

def bytes (t : Text) : Except Fault Value :=
  if t.all (·.toNat < 128) then
    match Base64.decode? t with
    | some bs => .ok (.bytes bs)
    | none => .error .unreadable
  else .error .unreadable

def moment (t : Text) : Except Fault Value :=
  match MomentText.read? t with
  | none => .error .notAMoment
  | some m =>
    match m.fault? with
    | some message => .error (.noSuchValue message)
    | none => .ok (.moment m)

/-- The date or time in a node with a text. A default key does not count here. -/
def momentOf (node : Node) (t : ScalarText) : Except Fault Value :=
  match node with
  | .mapping .. => .error .momentOfMapping
  | _ => ofWhole .notAMoment moment t

/-- What a node's value is, by its tag. The content of a collection is left for later. -/
def known (n : NodeId) : Construct Datum := do
  let node ← nodeAt n
  let text := textOf ((← get).graph.size + 1) n
  match node.tag with
  | .null => return .plain ((fun _ => Value.null) (← text))
  | .bool => return .plain (← ofWhole .unknownTruth bool (← text))
  | .int => return .plain (← ofWhole .notWhole (fun t => .int <$> Numeral.int t) (← text))
  | .real =>
    return .plain (← ofWhole .notWhole (fun t => .real <$> Numeral.real (n + 1) t) (← text))
  | .moment => return .plain (← momentOf node (← text))
  | .bytes => return .plain (← ofWhole .unreadable bytes (← text))
  | .text => return .plain (textValue (← text))
  | .list | .orderedMap | .pairs => return .list
  | .map => return .map
  | .set => return .set
  | .merge | .default | .other => fail

/-- What a node's value is. Each node is looked at once. -/
def datum (n : NodeId) : Construct Datum := do
  match ((← get).data[n]?).join with
  | some d => return d
  | none =>
    let d ← known n
    modify fun s => { s with data := s.data.setIfInBounds n (some d) }
    match d with
    | .plain _ => pure ()
    | _ => modify fun s => { s with pending := s.pending ++ [n] }
    return d

def entriesOf (n : NodeId) : Construct (List (NodeId × NodeId)) := do
  match ← nodeAt n with
  | .mapping _ entries => return entries
  | _ => fail

def setEntries (n : NodeId) (entries : List (NodeId × NodeId)) : Construct Unit :=
  modify fun s => { s with graph := s.graph.set n (.mapping (s.graph.tag n) entries) }

/-- A default key in a mapping is a text. -/
def settle (key : NodeId) : Construct Unit :=
  modify fun s =>
    match s.graph.get? key with
    | some (.scalar .default t) => { s with graph := s.graph.set key (.scalar .text t) }
    | some (.sequence .default items) => { s with graph := s.graph.set key (.sequence .text items) }
    | some (.mapping .default entries) =>
      { s with graph := s.graph.set key (.mapping .text entries) }
    | _ => s

mutual

/-- Carries out the merge keys among the entries from position `i` on, and gives the
entries that they bring in. -/
def takeMerges (n : NodeId) (i : Nat) : Nat → Construct (List (NodeId × NodeId))
  | 0 => return []
  | fuel + 1 => do
    let entries ← entriesOf n
    match entries[i]? with
    | none => return []
    | some (key, value) =>
      match (← get).graph.tag key with
      | .merge =>
        setEntries n (entries.eraseIdx i)
        let brought ← merged value fuel
        return brought ++ (← takeMerges n i fuel)
      | _ =>
        settle key
        takeMerges n (i + 1) fuel

/-- The entries that a merge key brings in: those of a mapping, or of a list of mappings,
of which the earlier ones count more. Entries that count more come later. -/
def merged (value : NodeId) : Nat → Construct (List (NodeId × NodeId))
  | 0 => return []
  | fuel + 1 => do
    match ← nodeAt value with
    | .mapping .. =>
      flatten value fuel
      entriesOf value
    | .sequence _ items => return (← mergedItems items fuel).reverse.flatten
    | .scalar .. => fail

def mergedItems : List NodeId → Nat → Construct (List (List (NodeId × NodeId)))
  | _, 0 => return []
  | [], _ => return []
  | item :: items, fuel + 1 => do
    let _ ← entriesOf item
    flatten item fuel
    let entries ← entriesOf item
    return entries :: (← mergedItems items fuel)

/-- Puts what its merge keys bring in before the other entries of a mapping. -/
def flatten (n : NodeId) : Nat → Construct Unit
  | 0 => return ()
  | fuel + 1 => do
    let brought ← takeMerges n 0 fuel
    setEntries n (brought ++ (← entriesOf n))

end

/-- The entries of a mapping, the last of equal keys counting. Collections are no keys. -/
def fill (n : NodeId) : Construct Unit := do
  let _ ← entriesOf n
  let fuel := (← get).graph.nodes.foldl (fun k node =>
    match node with
    | .mapping _ entries => k + 2 * entries.length + 4
    | .sequence _ items => k + 2 * items.length + 4
    | .scalar .. => k) 8
  flatten n (fuel * fuel)
  let found ← (← entriesOf n).foldlM (fun found (key, value) => do
    match ← datum key with
    | .plain k =>
      let _ ← datum value
      return Value.put k value found
    | _ => fail) []
  modify fun s => { s with entries := s.entries.setIfInBounds n found }

/-- Each item of an ordered collection is a mapping with one entry. -/
def fillPairs (n : NodeId) : Construct Unit := do
  match ← nodeAt n with
  | .sequence _ items =>
    for item in items do
      match ← nodeAt item with
      | .mapping _ [(key, value)] =>
        let _ ← datum key
        let _ ← datum value
      | _ => fail
  | _ => fail

/-- Reads what is directly in a collection. -/
def content (n : NodeId) : Construct Unit := do
  match ← nodeAt n with
  | .scalar .. => fail
  | node =>
    match node.tag with
    | .orderedMap | .pairs => fillPairs n
    | .list =>
      match node with
      | .sequence _ items => items.forM fun item => do let _ ← datum item
      | _ => fail
    | _ => fill n

/-- Reads the collections that are pending, and those that come up meanwhile. -/
def contents : Nat → Construct Unit
  | 0 => return ()
  | fuel + 1 => do
    match (← get).pending with
    | [] => return ()
    | n :: rest =>
      modify fun s => { s with pending := rest }
      content n
      contents fuel

/-- The value of a node, with the mappings in it cut at the given depth: a document may
hold itself, and no setting looks deeper. -/
def valueOf (s : Construction) : Nat → NodeId → Value
  | depth, n =>
    match (s.data[n]?).join with
    | none => .null
    | some (.plain v) => v
    | some .list =>
      match s.graph.get? n with
      | some (.sequence _ items) => .list items.length
      | _ => .list 0
    | some .set => .set (s.entries.getD n []).length
    | some .map =>
      match depth with
      | 0 => .map []
      | depth + 1 =>
        .map ((s.entries.getD n []).map fun (key, value) => (key, valueOf s depth value))

/-- The depth to which mappings are kept. -/
def keptDepth : Nat := 3

def ofRoot (g : Graph) (root : NodeId) : Except Fault Value := do
  let start : Construction :=
    ⟨g, Array.replicate g.size none, Array.replicate g.size [], []⟩
  let (_, s) ← (do let _ ← datum root; contents (g.size + 1) : Construct Unit).run start
  return valueOf s keptDepth root

end Construct

/-- The data of the only document in a file; null where there is none. -/
def load (content : List UInt8) : Except LoadFault Value := do
  match ← Graph.ofStream (.ofBytes content) with
  | (_, none) => return .null
  | (g, some root) => (Construct.ofRoot g root).mapError .unusable

/-- Finds the data in a file, or what is wrong with the file first. -/
class Loader where
  load : List UInt8 → Except LoadFault Value

instance : Loader := ⟨load⟩

end ViewCases.Yaml
