import ViewCases.DocComment
import ViewCases.Member.Basic

/-! Modifiers out of function headers. A header that can be read and is exported
gives a modifier, one that is not exported gives nothing, and one that cannot be
read gives an issue with its line. `ofBody` reads a declaration body that is
available as text only. -/
namespace ViewCases
open Text

inductive IssueCause
  | malformedSource
  | unreadableSignature (header : Text)
  deriving DecidableEq, Repr

def IssueCause.message : IssueCause → Text
  | .malformedSource => "Tree-sitter reported parse errors in file"
  | .unreadableSignature header =>
    "Could not read function signature: " ++ joinWith " " (words header)

/-- A problem that does not stop the reading; lines count from one. -/
structure Issue where
  filePath : Text
  line : Nat
  cause : IssueCause
  deriving DecidableEq, Repr

/-- No issue of a source is worse than a warning. -/
def Issue.severity (_ : Issue) : Text := "warning"

def Modifier.ofHeader (h : FunctionHeader) (documentation : Option Text) : Modifier where
  name := h.name
  parameters := h.parameters
  returnType := h.returnType
  availability := h.availability
  documentation := documentation
  isGeneric := !h.genericParameters.isEmpty
  genericConstraints := h.genericConstraints
  genericParameters := h.genericParameters

structure Findings where
  modifiers : List Modifier := []
  issues : List Issue := []
  deriving DecidableEq, Repr

namespace Findings

def append (a b : Findings) : Findings :=
  ⟨a.modifiers ++ b.modifiers, a.issues ++ b.issues⟩

def ofHeader (filePath header : Text) (documentation : Option Text) (line : Nat) : Findings :=
  match FunctionHeader.parse? header with
  | none => ⟨[], [⟨filePath, line, .unreadableSignature header⟩]⟩
  | some h => if h.isExported then ⟨[Modifier.ofHeader h documentation], []⟩ else {}

/-- The inside of a body text; the outermost braces may be missing. -/
def insideBraces (t : Text) : Text :=
  let opened := if t.head? = some '\x7b' then t.drop 1 else t
  if t.getLast? = some '\x7d' then opened.dropLast else opened

/-- What one member of the body text `inside` gives; `row` counts the lines before
the body. -/
def ofMember (filePath inside : Text) (row : Nat) (m : Member) : Findings :=
  if m.keyword = "func" then
    ofHeader filePath m.header (DocComment.text? m.comments)
      (row + 1 + countNewlines (inside.take m.offset))
  else {}

def ofBody (filePath : Text) (row : Nat) (body : Text) : Findings :=
  let inside := insideBraces body
  (Member.split inside).foldl (fun f m => f.append (ofMember filePath inside row m)) {}

/-- The findings with `availability` for the modifiers that state none. -/
def withAvailability (availability : Option Text) (f : Findings) : Findings :=
  { f with modifiers := f.modifiers.map fun m =>
      { m with availability := m.availability.or availability } }

end Findings
end ViewCases
