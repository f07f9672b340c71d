import ViewCases.TypeExpr.Basic

/-! The associated values of an enum case: how a parameter type is stored, and
which parameter types cannot be. -/
namespace ViewCases

inductive PayloadIssue
  | isOpaque
  | isInout
  deriving DecidableEq, Repr

namespace PayloadIssue

def message : PayloadIssue → Text
  | .isOpaque => "opaque parameter types cannot be stored in an enum"
  | .isInout => "inout parameters cannot be stored in an enum"

/-- Only the head of the type matters, below at most one optional mark: the
signature of a closure may mention `inout`. -/
def ofType? (t : TypeExpr) : Option PayloadIssue :=
  let head := match t with
    | .optional wrapped => wrapped
    | t => t
  if ("some " : Text).isPrefixOf head.baseName then some .isOpaque
  else if ("inout " : Text).isPrefixOf head.baseName then some .isInout
  else none

end PayloadIssue

namespace TypeExpr

/-- The type as stored. Stored closures escape anyway and refuse the mark, so it
is dropped from a closure and from a closure under one optional mark. -/
def stored : TypeExpr → TypeExpr
  | .optional wrapped => .optional wrapped.withoutEscaping
  | t => t.withoutEscaping

def payloadText (t : TypeExpr) : Text :=
  t.stored.render

end TypeExpr
end ViewCases
