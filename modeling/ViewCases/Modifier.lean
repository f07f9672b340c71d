import ViewCases.Text.Basic

/-! A View modifier as its interface declares it: the name, the parameters with
their texts as written, and what the declaration says besides. -/
namespace ViewCases

/-- One parameter. `label` is the word written at the call, if there is one;
`name` is the word bound inside. -/
structure Parameter where
  label : Option Text
  name : Text
  type : Text
  hasDefault : Bool
  defaultValue : Option Text
  deriving DecidableEq, Repr

structure Modifier where
  name : Text
  parameters : List Parameter
  returnType : Text
  availability : Option Text
  documentation : Option Text
  isGeneric : Bool
  genericConstraints : List Text
  genericParameters : List Text
  deriving DecidableEq, Repr

namespace Parameter

def isLabeled (p : Parameter) : Bool :=
  p.label.isSome

/-- The label in a selector; a missing or empty one shows as the low line. -/
def selectorLabel (p : Parameter) : Text :=
  match p.label with
  | none | some [] => "_"
  | some label => label

end Parameter

namespace Modifier

/-- The selector of the modifier, such as `frame(width:height:)`. -/
def callSignature (m : Modifier) : Text :=
  m.name ++ ['('] ++ m.parameters.flatMap (·.selectorLabel ++ [':']) ++ [')']

end Modifier
end ViewCases
