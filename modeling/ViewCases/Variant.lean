import ViewCases.Identifier
import ViewCases.Modifier
import ViewCases.Payload
import ViewCases.TypeExpr.Parse

/-! The enum case that represents a modifier. `Variant.ofModifier` reads every type
of the modifier and gives the case with its warnings, or the first obstacle: a
generic parameter list, then the return type, then the parameters in order. -/
namespace ViewCases
open Text

/-- A parameter together with the text of its stored type. -/
structure Field where
  parameter : Parameter
  payload : Text
  deriving DecidableEq, Repr

namespace Field

/-- The name that the switch pattern binds. -/
def binding (f : Field) : Text :=
  Identifier.escape f.parameter.name

def labelled (f : Field) (t : Text) : Text :=
  match f.parameter.label with
  | some label => label ++ ": " ++ t
  | none => t

def declaration (withDefault : Bool) (f : Field) : Text :=
  let value := match f.parameter.defaultValue with
    | some (c :: cs) => if withDefault && f.parameter.hasDefault then " = " ++ c :: cs else []
    | _ => []
  f.labelled f.payload ++ value

/-- The argument in the forwarded call. -/
def argument (f : Field) : Text :=
  f.labelled f.binding

end Field

inductive Obstacle
  | isGeneric (parameters : List Text)
  | unreadable (type : Text) (reason : TypeExpr.Reason)
  | notStorable (type : Text) (issue : PayloadIssue)
  deriving DecidableEq, Repr

namespace Obstacle

/-- The offending text as the interface has it. -/
def typeText : Obstacle → Text
  | .isGeneric parameters =>
    let names := joinWith ", " parameters
    let inner : Text := if names.isEmpty then "..." else names
    "<" ++ inner ++ ">"
  | .unreadable type _ => type
  | .notStorable type _ => type

def reason : Obstacle → Text
  | .isGeneric _ => "generic modifiers cannot be captured by a non-generic enum"
  | .unreadable _ reason => reason.message
  | .notStorable _ issue => issue.message

end Obstacle

/-- A case: the modifier, the tag that names it, and a field for each parameter. -/
structure Variant where
  modifier : Modifier
  tag : Text
  fields : List Field
  deriving DecidableEq, Repr

namespace Variant

def caseName (v : Variant) : Text :=
  Identifier.escape v.tag

def readType (t : Text) : Except Obstacle TypeExpr :=
  match TypeExpr.parse t with
  | .ok e => .ok e
  | .error u => .error (.unreadable t u.reason)

/-- What to warn of for a parameter of type `e`: nesting deeper than `maxDepth`,
and a closure anywhere in the type. -/
def warnings (maxDepth : Int) (m : Modifier) (p : Parameter) (e : TypeExpr) : List Text :=
  let about : Text := m.name ++ ": parameter '" ++ p.name ++ "' "
  (if maxDepth < e.depth then
    [about ++ "type " ++ quoted p.type ++ " is nested " ++ decimal e.depth ++ " levels deep"]
  else []) ++
  (if e.containsClosure then
    [about ++ "carries a closure; synthesized Equatable conformance does not cover it"]
  else [])

def fieldOf (maxDepth : Int) (m : Modifier) (p : Parameter) :
    Except Obstacle (Field × List Text) := do
  let e ← readType p.type
  match PayloadIssue.ofType? e with
  | some issue => .error (.notStorable p.type issue)
  | none => .ok (⟨p, e.payloadText⟩, warnings maxDepth m p e)

/-- The case for a modifier, with its warnings. -/
def ofModifier (maxDepth : Int) (m : Modifier) : Except Obstacle (Variant × List Text) := do
  if m.isGeneric then .error (.isGeneric m.genericParameters)
  else
    let _ ← readType m.returnType
    let fields ← m.parameters.mapM (fieldOf maxDepth m)
    return (⟨m, Identifier.variantTag m.name, fields.map (·.1)⟩, fields.flatMap (·.2))

/-- The first parameter with a readable type that cannot be stored, and why. -/
def unstorable? (m : Modifier) : Option (Parameter × PayloadIssue) :=
  m.parameters.findSome? fun p =>
    match TypeExpr.parse p.type with
    | .error _ => none
    | .ok e => (PayloadIssue.ofType? e).map (p, ·)

/-- What to say of a parameter that cannot be stored. -/
def unstorableMessage (p : Parameter) (issue : PayloadIssue) : Text :=
  "parameter '" ++ p.name ++ "' (" ++ p.type ++ "): " ++ issue.message

def unsupportedPayload (m : Modifier) : Option Text :=
  (unstorable? m).map fun (p, issue) => unstorableMessage p issue

end Variant
end ViewCases
