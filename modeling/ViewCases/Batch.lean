import ViewCases.Category
import ViewCases.Interface.Basic
import ViewCases.Settings.Basic

/-! A run over many modifiers: those that no enum can hold are left out, the others are
grouped by category, and every group gives one file. A group that fails gives the
record of its failure and does not touch the other groups. -/
namespace ViewCases
open Text

inductive Exclusion
  | isGeneric
  | notStorable (parameter : Parameter) (issue : PayloadIssue)
  | overloadOf (first : Modifier) (category : Category)
  deriving DecidableEq, Repr

namespace Exclusion

def message : Exclusion → Text
  | .isGeneric => "generic modifier"
  | .notStorable parameter issue => Variant.unstorableMessage parameter issue
  | .overloadOf first category =>
    "overload of " ++ first.callSignature ++ " in " ++ category.label

/-- Why no enum can hold the modifier, if none can. -/
def ofModifier? (m : Modifier) : Option Exclusion :=
  if m.isGeneric then some .isGeneric
  else (Variant.unstorable? m).map fun (p, issue) => .notStorable p issue

end Exclusion

structure Skipped where
  modifier : Modifier
  exclusion : Exclusion
  deriving DecidableEq, Repr

namespace Skipped

def message (s : Skipped) : Text :=
  s.modifier.callSignature ++ ": " ++ s.exclusion.message

def ofModifier? (m : Modifier) : Option Skipped :=
  (Exclusion.ofModifier? m).map (⟨m, ·⟩)

end Skipped

/-- The modifiers of a category from which its file is generated, and the overloads
that are left out of it. -/
structure Group where
  category : Category
  members : List Modifier
  dropped : List Skipped
  deriving DecidableEq, Repr

namespace Group

/-- Divides modifiers into the first ones of every case name and the others. `seen`
holds the first ones found before. -/
def deduplicate (c : Category) (seen : List Modifier) :
    List Modifier → List Modifier × List Skipped
  | [] => ([], [])
  | m :: ms =>
    match seen.find? fun first => Identifier.variantTag first.name = Identifier.variantTag m.name with
    | some first =>
      let (kept, dropped) := deduplicate c seen ms
      (kept, ⟨m, .overloadOf first c⟩ :: dropped)
    | none =>
      let (kept, dropped) := deduplicate c (seen ++ [m]) ms
      (m :: kept, dropped)

def ofModifiers (s : Settings) (c : Category) (ms : List Modifier) : Group :=
  if s.deduplicateOverloads then
    let (kept, dropped) := deduplicate c [] ms
    ⟨c, kept, dropped⟩
  else ⟨c, ms, []⟩

end Group

/-- The outcome of a run. -/
structure Batch where
  sourcePath : Text
  units : List EnumFile
  extractedCount : Nat
  skipped : List Skipped
  issues : List Issue
  deriving DecidableEq, Repr

namespace Batch

def failedUnits (b : Batch) : List EnumFile :=
  b.units.filter fun u => !u.isSuccessful

def isSuccessful (b : Batch) : Bool :=
  b.failedUnits.isEmpty

def caseCount (b : Batch) : Nat :=
  (b.units.map (·.caseCount)).foldr (· + ·) 0

/-- The modifiers that can be in a group. -/
def candidates (s : Settings) (ms : List Modifier) : List Modifier :=
  if s.skipGenericModifiers then ms.filter fun m => (Exclusion.ofModifier? m).isNone else ms

def excluded (s : Settings) (ms : List Modifier) : List Skipped :=
  if s.skipGenericModifiers then ms.filterMap Skipped.ofModifier? else []

def groups (s : Settings) (ms : List Modifier) : List Group :=
  (Category.categorize (candidates s ms)).map fun (c, group) => Group.ofModifiers s c group

/-- The file for the modifiers under a label, or the record of its failure. -/
def unit (s : Settings) (label : Text) (ms : List Modifier) : EnumFile :=
  let name := s.unionName label
  match EnumFile.generate s.options name ms with
  | .ok file => file
  | .error e => .failed (name ++ s.fileExtension) (label ++ ": " ++ e.message)

def ofModifiers (s : Settings) (sourcePath : Text) (ms : List Modifier) : Batch :=
  let groups := groups s ms
  { sourcePath
    units := groups.map fun g => unit s g.category.label g.members
    extractedCount := ms.length
    skipped := excluded s ms ++ groups.flatMap (·.dropped)
    issues := [] }

end Batch
end ViewCases
