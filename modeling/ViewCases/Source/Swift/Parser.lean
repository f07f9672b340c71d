import ViewCases.Source.Grammar.Definitions
import ViewCases.Source.Outline
import ViewCases.Source.Parse.Run
import ViewCases.Source.Swift.Grammar
import ViewCases.Source.Swift.MarkScan

/-! The outline of a Swift source. -/
namespace ViewCases.Source.Swift

def grammar (_ : Unit) : Grammar := .ofDefinitions definitions commentRule

/-- The table is large, so it is made when the first source is read. -/
def table : Thunk Table := Thunk.mk fun _ => .ofGrammar (grammar ())

/-- Reads marks as the parser asks for them. -/
def markReader (g : Grammar) (i : Input) (valid : Bits) (hashes pos : Nat) :
    Option (Nat × Nat × Nat × Nat) :=
  (markAt? (fun m => valid.contains (g.markSymbol m)) hashes (i.tailAt pos) pos i.size).map fun m =>
    (g.markSymbol m.mark, m.start, m.stop, m.hashes)

/-- A source with its nodes. -/
structure Parsed where
  input : Input
  root : Outline

/-- The nodes of a source. A parser that finds no tree at all gives a node without children. -/
def parse (source : List Char) : Parsed :=
  let t := table.get
  let input := Input.ofChars source
  let tree := Parse.tree? { table := t, input, markAt? := markReader t.grammar input }
  ⟨input, Outline.ofTree t.grammar (tree.getD (.ofChildren t.grammar .defect [] [] false))⟩

/-- Finds the nodes of a source. -/
class Outliner where
  outline : List Char → Parsed

instance : Outliner := ⟨parse⟩

namespace Parsed
variable (p : Parsed)

def text (start stop : Extent) : List Char :=
  (p.input.tailAt start.chars).take (stop.chars - start.chars)

def textOf (o : Outline) : List Char := p.text o.part.start o.part.stop

/-- The text of a node up to its body. -/
def header (o : Outline) (body : Option Outline) : List Char :=
  p.text o.part.start ((body.map (·.part.start)).getD o.part.stop)

end Parsed

/-! ## Declarations -/

/-- The outermost declarations of types and of their extensions. -/
def typeDeclarations (root : Outline) : List Outline := root.named "classDeclaration"

def childNamed? (o : Outline) (names : List String) : Option Outline :=
  o.children.find? fun c => names.contains c.part.name

def typeBody? (o : Outline) : Option Outline := childNamed? o ["classBody", "enumClassBody"]

def functionBody? (o : Outline) : Option Outline := childNamed? o ["functionBody"]

def isFunction (o : Outline) : Bool := o.part.name = "functionDeclaration"

def isComment (o : Outline) : Bool := ["comment", "blockComment"].contains o.part.name

end ViewCases.Source.Swift
