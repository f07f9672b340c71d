import ViewCases.Text.Basic

/-! Type expressions of Swift: names, applications to one or more arguments,
optionals and function types. Tuples and array or dictionary sugar are names
here. `render` writes a tree as Swift text; the accessors answer for every shape
and are empty or false where a question does not apply. -/
namespace ViewCases

inductive TypeExpr
  | simple (name : Text)
  | generic (name : Text) (first : TypeExpr) (rest : List TypeExpr)
  | optional (wrapped : TypeExpr)
  | function (parameters : List TypeExpr) (result : TypeExpr) (escaping : Bool)
      (attributes effects : List Text)
  deriving Repr

namespace TypeExpr

/-- An application without arguments names no type. -/
structure NoArguments where
  name : Text

def ofArguments (name : Text) : List TypeExpr → Except NoArguments TypeExpr
  | [] => .error ⟨name⟩
  | first :: rest => .ok (.generic name first rest)

mutual

def decEq : (a b : TypeExpr) → Decidable (a = b)
  | .simple n, .simple m => decidable_of_iff (n = m) (by simp)
  | .generic n a as, .generic m b bs =>
    have := decEq a b
    have := decEqAll as bs
    decidable_of_iff (n = m ∧ a = b ∧ as = bs) (by simp)
  | .optional a, .optional b =>
    have := decEq a b
    decidable_of_iff (a = b) (by simp)
  | .function as a e at1 ef, .function bs b f bt bf =>
    have := decEqAll as bs
    have := decEq a b
    decidable_of_iff (as = bs ∧ a = b ∧ e = f ∧ at1 = bt ∧ ef = bf) (by simp)
  | .simple _, .generic .. | .simple _, .optional _ | .simple _, .function ..
  | .generic .., .simple _ | .generic .., .optional _ | .generic .., .function ..
  | .optional _, .simple _ | .optional _, .generic .. | .optional _, .function ..
  | .function .., .simple _ | .function .., .generic .. | .function .., .optional _ =>
    isFalse (by simp)

def decEqAll : (as bs : List TypeExpr) → Decidable (as = bs)
  | [], [] => isTrue rfl
  | a :: as, b :: bs =>
    have := decEq a b
    have := decEqAll as bs
    decidable_of_iff (a = b ∧ as = bs) (by simp)
  | [], _ :: _ | _ :: _, [] => isFalse (by simp)

end

instance : DecidableEq TypeExpr := decEq

def isClosure : TypeExpr → Bool
  | .function .. => true
  | _ => false

def isOptional : TypeExpr → Bool
  | .optional _ => true
  | _ => false

def isEscaping : TypeExpr → Bool
  | .function _ _ escaping _ _ => escaping
  | _ => false

/-- The name without arguments or optional marks; every function type has one
name in common. -/
def baseName : TypeExpr → Text
  | .simple name => name
  | .generic name _ _ => name
  | .optional wrapped => wrapped.baseName
  | .function .. => "Closure"

/-- The arguments of an application, also under optional marks. -/
def arguments : TypeExpr → List TypeExpr
  | .generic _ first rest => first :: rest
  | .optional wrapped => wrapped.arguments
  | _ => []

def closureParameters : TypeExpr → List TypeExpr
  | .function parameters .. => parameters
  | _ => []

def closureResult? : TypeExpr → Option TypeExpr
  | .function _ result .. => some result
  | _ => none

def children : TypeExpr → List TypeExpr
  | .simple _ => []
  | .generic _ first rest => first :: rest
  | .optional wrapped => [wrapped]
  | .function parameters result .. => parameters ++ [result]

mutual

/-- The height of the tree; a name has depth one. -/
def depth : TypeExpr → Nat
  | .simple _ => 1
  | .generic _ first rest => 1 + max first.depth (depthAll rest)
  | .optional wrapped => 1 + wrapped.depth
  | .function parameters result .. => 1 + max (depthAll parameters) result.depth

def depthAll : List TypeExpr → Nat
  | [] => 0
  | t :: ts => max t.depth (depthAll ts)

end

mutual

/-- The tree and all its descendants, each before its own. -/
def nodes : TypeExpr → List TypeExpr
  | .simple name => [.simple name]
  | .generic name first rest => .generic name first rest :: (first.nodes ++ nodesAll rest)
  | .optional wrapped => .optional wrapped :: wrapped.nodes
  | .function parameters result escaping attributes effects =>
    .function parameters result escaping attributes effects ::
      (nodesAll parameters ++ result.nodes)

def nodesAll : List TypeExpr → List TypeExpr
  | [] => []
  | t :: ts => t.nodes ++ nodesAll ts

end

/-- The words before the parameters of a function type, each with a space behind it. -/
def renderLead (escaping : Bool) (attributes : List Text) : Text :=
  ((if escaping then [("@escaping" : Text)] else []) ++ attributes).flatMap (· ++ " ")

mutual

/-- The tree as Swift text. An optional function type is parenthesised, because
the mark would otherwise belong to its result. -/
def render : TypeExpr → Text
  | .simple name => name
  | .generic name first rest =>
    name ++ "<" ++ Text.joinWith ", " (first.render :: renderAll rest) ++ ">"
  | .optional wrapped =>
    if wrapped.isClosure then "(" ++ wrapped.render ++ ")?" else wrapped.render ++ "?"
  | .function parameters result escaping attributes effects =>
    renderLead escaping attributes ++ "(" ++ Text.joinWith ", " (renderAll parameters) ++ ")" ++
      effects.flatMap ((" " : Text) ++ ·) ++ " -> " ++ result.render

def renderAll : List TypeExpr → List Text
  | [] => []
  | t :: ts => t.render :: renderAll ts

end

/-- A function type without its escaping mark; any other type as it is. -/
def withoutEscaping : TypeExpr → TypeExpr
  | .function parameters result _ attributes effects =>
    .function parameters result false attributes effects
  | t => t

def containsClosure (t : TypeExpr) : Bool :=
  t.nodes.any isClosure

theorem renderAll_eq_map (ts : List TypeExpr) : renderAll ts = ts.map render := by
  induction ts with
  | nil => rfl
  | cons t ts ih => simp [renderAll, ih]

theorem nodesAll_eq_flatMap (ts : List TypeExpr) : nodesAll ts = ts.flatMap nodes := by
  induction ts with
  | nil => rfl
  | cons t ts ih => simp [nodesAll, ih]

theorem nodes_eq_cons (t : TypeExpr) : t.nodes = t :: t.children.flatMap nodes := by
  cases t <;> simp [nodes, children, nodesAll_eq_flatMap]

theorem mem_nodes_self (t : TypeExpr) : t ∈ t.nodes := by
  rw [nodes_eq_cons]
  exact List.mem_cons_self

end TypeExpr
end ViewCases
