import ViewCases.TypeExpr.Basic
import ViewCases.Attribute
import ViewCases.Text.Quoted

/-! Reading a type expression. `shape` looks at the trimmed text once and names its
outermost form together with the texts of its parts; `parse` reads the parts in
turn, and each of them is shorter than the whole. The arrow is looked for before
the optional mark, so that a mark behind a result belongs to the result. -/
namespace ViewCases.TypeExpr
open Text ViewCases.Bracket

/-- Why a text is no type. -/
inductive Reason
  | empty
  | unbalanced
  | unclosedArguments
  | noBaseName
  | noArguments
  | noReturnType
  | noParameterList
  | malformedAttribute
  | unterminatedAttribute
  | emptyInList
  deriving DecidableEq, Repr

def Reason.message : Reason → Text
  | .empty => "empty type"
  | .unbalanced => "unbalanced delimiters"
  | .unclosedArguments => "unbalanced angle brackets"
  | .noBaseName => "generic arguments without a base name"
  | .noArguments => "generic type requires at least one parameter"
  | .noReturnType => "closure without a return type"
  | .noParameterList => "closure without a parameter list"
  | .malformedAttribute => "malformed attribute"
  | .unterminatedAttribute => "unterminated attribute argument"
  | .emptyInList => "empty type in list"

structure Unresolved where
  text : Text
  reason : Reason
  deriving DecidableEq, Repr

def Unresolved.message (u : Unresolved) : Text :=
  "Unresolvable type " ++ quoted u.text ++ ": " ++ u.reason.message

def NoArguments.message (e : NoArguments) : Text :=
  "Generic type " ++ quoted e.name ++ " requires at least one parameter"

def escapingAttribute : Text := "@escaping"

/-- Type attributes that take an argument in parentheses. -/
def attributesWithArgument : List Text := ["convention", "differentiable"]

def takeAttribute (head : Text) : Except Reason (Text × Text) :=
  match Attribute.name? head with
  | none => .error .malformedAttribute
  | some (name, rest) =>
    if attributesWithArgument.contains name ∧ rest.head? = some '(' then
      match partner? .paren rest with
      | none => .error .unterminatedAttribute
      | some close => .ok ('@' :: name ++ rest.take (close + 1), rest.drop (close + 1))
    else .ok ('@' :: name, rest)

theorem takeAttribute_eq_append {head mark rest : Text}
    (h : takeAttribute head = .ok (mark, rest)) :
    mark ≠ [] ∧ head = mark ++ rest := by
  unfold takeAttribute at h
  split at h
  · simp at h
  · next name r hn =>
    have := Attribute.name?_eq_some hn
    split at h
    · split at h
      · simp at h
      · simp only [Except.ok.injEq, Prod.mk.injEq] at h
        obtain ⟨rfl, rfl⟩ := h
        simp [this.2, List.take_append_drop]
    · simp only [Except.ok.injEq, Prod.mk.injEq] at h
      obtain ⟨rfl, rfl⟩ := h
      simp [this.2]

def takeAttributes (head : Text) : Except Reason (List Text × Text) :=
  if head.head? = some '@' then
    match _h : takeAttribute head with
    | .error reason => .error reason
    | .ok (mark, rest) =>
      match takeAttributes (stripStart rest) with
      | .error reason => .error reason
      | .ok (marks, rest) => .ok (mark :: marks, rest)
  else .ok ([], head)
termination_by head.length
decreasing_by
  obtain ⟨hne, rfl⟩ := takeAttribute_eq_append _h
  have := length_stripStart_le rest
  have := List.length_pos_iff.2 hne
  simp
  omega

/-- The marks between parameters and arrow. -/
def effectWords : List Text := ["async", "throws", "rethrows"]

/-- The text before `word`, if it ends with it as a whole word. -/
def dropTrailingWord? (word t : Text) : Option Text :=
  match dropLead? word.reverse t.reverse with
  | none => none
  | some [] => some []
  | some (c :: rest) => if isWord c then none else some (stripEnd (c :: rest).reverse)

/-- The effect at the end of the text, and what stands before it. -/
def trailingEffect? (t : Text) : Option (Text × Text) :=
  effectWords.findSome? fun word => (dropTrailingWord? word t).map (word, ·)

theorem length_dropTrailingWord? {word t rest : Text} (hw : word ≠ [])
    (h : dropTrailingWord? word t = some rest) : rest.length < t.length := by
  have pos := List.length_pos_iff.2 hw
  unfold dropTrailingWord? at h
  split at h
  · simp at h
  · next he =>
    have := congrArg List.length (eq_append_of_dropLead? he)
    simp at this h
    subst h
    simp
    omega
  · next c r he =>
    have := congrArg List.length (eq_append_of_dropLead? he)
    simp at this
    split at h
    · simp at h
    · simp only [Option.some.injEq] at h
      subst h
      have := length_stripEnd_le (c :: r).reverse
      simp at this ⊢
      omega

theorem length_trailingEffect? {t word rest : Text} (h : trailingEffect? t = some (word, rest)) :
    rest.length < t.length := by
  obtain ⟨w, hw, he⟩ := List.exists_of_findSome?_eq_some h
  obtain ⟨r, hr, heq⟩ := Option.map_eq_some_iff.1 he
  simp only [Prod.mk.injEq] at heq
  obtain ⟨rfl, rfl⟩ := heq
  refine length_dropTrailingWord? ?_ hr
  simp [effectWords] at hw
  rcases hw with rfl | rfl | rfl <;> simp

/-- The text before the effects at its end, and these in the order written. -/
def splitEffects (t : Text) : Text × List Text :=
  match _h : trailingEffect? t with
  | none => (t, [])
  | some (word, rest) =>
    let (before, effects) := splitEffects rest
    (before, effects ++ [word])
termination_by t.length
decreasing_by exact length_trailingEffect? _h

/-- The outermost form of a type text, with its parts still unread. -/
inductive Shape
  | name (name : Text)
  | application (name first : Text) (rest : List Text)
  | optional (body : Text)
  | group (inner : Text)
  | closure (parameters : List Text) (result : Text) (escaping : Bool)
      (attributes effects : List Text)
  deriving DecidableEq, Repr

/-- The segments of a list of types. No segment may be empty. -/
def listParts (t : Text) : Except Unresolved (List Text) :=
  let segments := splitTopLevel t
  if segments.any List.isEmpty then .error ⟨t, .emptyInList⟩ else .ok segments

/-- The shape of the trimmed text `s` whose first top-level arrow is at `arrow`. -/
def closureShape (s : Text) (arrow : Nat) : Except Unresolved Shape :=
  let result := strip (s.drop (arrow + 2))
  if result.isEmpty then .error ⟨s, .noReturnType⟩
  else match takeAttributes (strip (s.take arrow)) with
    | .error reason => .error ⟨s, reason⟩
    | .ok (marks, head) =>
      let (head, effects) := splitEffects head
      if head.isEmpty then .error ⟨s, .noParameterList⟩
      else match listParts ((insideParens? head).getD head) with
        | .error e => .error e
        | .ok parameters =>
          .ok (.closure parameters result (marks.contains escapingAttribute)
            (marks.filter (· ≠ escapingAttribute)) effects)

/-- The shape of the trimmed text `s`, which holds an opening angle bracket. Text
behind the arguments makes the whole a name. -/
def applicationShape (s : Text) : Except Unresolved Shape :=
  let base := s.takeWhile (· ≠ '<')
  let tail := s.dropWhile (· ≠ '<')
  match partner? .angle tail with
  | none => .error ⟨s, .unclosedArguments⟩
  | some close =>
    if close + 1 ≠ tail.length then .ok (.name s)
    else if (strip base).isEmpty then .error ⟨s, .noBaseName⟩
    else match listParts (tail.drop 1).dropLast with
      | .error e => .error e
      | .ok [] => .error ⟨s, .noArguments⟩
      | .ok (first :: rest) => .ok (.application (strip base) first rest)

def shape (t : Text) : Except Unresolved Shape :=
  let s := strip t
  if s.isEmpty then .error ⟨t, .empty⟩
  else if !isBalanced s then .error ⟨t, .unbalanced⟩
  else match findTopLevel ['-', '>'] s with
    | some arrow => closureShape s arrow
    | none =>
      if s.getLast? = some '?' then .ok (.optional s.dropLast)
      else match insideParens? s with
        | some inner =>
          if (splitTopLevel inner).length = 1 then .ok (.group inner)
          else if s.contains '<' then applicationShape s else .ok (.name s)
        | none => if s.contains '<' then applicationShape s else .ok (.name s)

def Shape.parts : Shape → List Text
  | .name _ => []
  | .application _ first rest => first :: rest
  | .optional body => [body]
  | .group inner => [inner]
  | .closure parameters result .. => parameters ++ [result]

theorem listParts_eq_ok {t : Text} {parts : List Text} (h : listParts t = .ok parts) :
    parts = splitTopLevel t := by
  unfold listParts at h
  simp only at h
  split at h
  · simp at h
  · simpa using h.symm

theorem length_takeAttributes {head rest : Text} {marks : List Text}
    (h : takeAttributes head = .ok (marks, rest)) : rest.length ≤ head.length := by
  fun_induction takeAttributes head generalizing marks rest with
  | case1 => simp at h
  | case2 => simp at h
  | case3 head _ mark r ha marks' r' hr ih =>
    simp only [Except.ok.injEq, Prod.mk.injEq] at h
    obtain ⟨-, rfl⟩ := h
    have := ih hr
    have := length_stripStart_le r
    obtain ⟨-, rfl⟩ := takeAttribute_eq_append ha
    simp
    omega
  | case4 =>
    simp only [Except.ok.injEq, Prod.mk.injEq] at h
    simp [h.2]

theorem length_splitEffects (t : Text) : (splitEffects t).1.length ≤ t.length := by
  fun_induction splitEffects t with
  | case1 => simp
  | case2 t word rest h before effects he ih =>
    have := length_trailingEffect? h
    rw [he] at ih
    simp at ih ⊢
    omega

theorem length_getD_insideParens? (t : Text) : ((insideParens? t).getD t).length ≤ t.length := by
  cases h : insideParens? t with
  | none => simp
  | some s =>
    have := length_insideParens? h
    have := length_strip_le t
    simp
    omega

theorem length_of_mem_closureShape {s : Text} {arrow : Nat} {sh : Shape} (ha : arrow < s.length)
    (h : closureShape s arrow = .ok sh) {u : Text} (hu : u ∈ sh.parts) : u.length < s.length := by
  unfold closureShape at h
  simp only at h
  split at h
  · simp at h
  · split at h
    · simp at h
    · next marks head hm =>
      split at h
      · simp at h
      · split at h
        · simp at h
        · next parameters hp =>
          simp only [Except.ok.injEq] at h
          subst h
          simp only [Shape.parts, List.mem_append, List.mem_singleton] at hu
          rcases hu with hu | rfl
          · rw [listParts_eq_ok hp] at hu
            have h1 := length_of_mem_splitTopLevel hu
            have h2 := length_getD_insideParens? (splitEffects head).1
            have h3 := length_splitEffects head
            have h4 := length_takeAttributes hm
            have h5 := length_strip_le (s.take arrow)
            simp at h5
            omega
          · have := length_strip_le (s.drop (arrow + 2))
            simp at this
            omega

theorem length_of_mem_applicationShape {s : Text} {sh : Shape}
    (h : applicationShape s = .ok sh) {u : Text} (hu : u ∈ sh.parts) : u.length < s.length := by
  unfold applicationShape at h
  simp only at h
  split at h
  · simp at h
  · next close hc =>
    split at h
    · simp at h; subst h; simp [Shape.parts] at hu
    · split at h
      · simp at h
      · split at h
        · simp at h
        · simp at h
        · next first rest hl =>
          simp only [Except.ok.injEq] at h
          subst h
          have hu : u ∈ first :: rest := hu
          rw [listParts_eq_ok hl] at hu
          have h1 := length_of_mem_splitTopLevel hu
          have h2 := (partnerFrom_lt hc).2
          have h3 := length_dropWhile_le (· ≠ '<') s
          simp at h1 h2 h3
          omega

/-- Reading is on ever shorter texts. -/
theorem length_of_mem_shape {t : Text} {sh : Shape} (h : shape t = .ok sh) {u : Text}
    (hu : u ∈ sh.parts) : u.length < t.length := by
  have hle := length_strip_le t
  have app : ∀ {sh : Shape}, (if (strip t).contains '<' then applicationShape (strip t)
      else .ok (.name (strip t))) = .ok sh → u ∈ sh.parts → u.length < t.length := by
    intro sh h hu
    split at h
    · exact Nat.lt_of_lt_of_le (length_of_mem_applicationShape h hu) hle
    · simp at h; subst h; simp [Shape.parts] at hu
  unfold shape at h
  simp only at h
  split at h
  · simp at h
  · next hne =>
    split at h
    · simp at h
    · split at h
      · next arrow ha =>
        exact Nat.lt_of_lt_of_le (length_of_mem_closureShape (findTopLevel_lt ha).2 h hu) hle
      · split at h
        · simp only [Except.ok.injEq] at h
          subst h
          simp [Shape.parts] at hu
          have := List.length_pos_iff.2 (show strip t ≠ [] by simpa using hne)
          subst hu
          simp
          omega
        · split at h
          · next inner hi =>
            split at h
            · simp only [Except.ok.injEq] at h
              subst h
              simp [Shape.parts] at hu
              subst hu
              have := length_insideParens? hi
              have := length_strip_le (strip t)
              omega
            · exact app h hu
          · exact app h hu

def parse (t : Text) : Except Unresolved TypeExpr :=
  match _h : shape t with
  | .error e => .error e
  | .ok (.name name) => .ok (.simple name)
  | .ok (.optional body) => do return .optional (← parse body)
  | .ok (.group inner) => parse inner
  | .ok (.application name first rest) => do
    let first' ← parse first
    let rest' ← rest.attach.mapM fun u => parse u.1
    return .generic name first' rest'
  | .ok (.closure parameters result escaping attributes effects) => do
    let parameters' ← parameters.attach.mapM fun u => parse u.1
    let result' ← parse result
    return .function parameters' result' escaping attributes effects
termination_by t.length
decreasing_by
  · exact length_of_mem_shape _h (by simp [Shape.parts])
  · exact length_of_mem_shape _h (by simp [Shape.parts])
  · exact length_of_mem_shape _h (by simp [Shape.parts])
  · exact length_of_mem_shape _h (by simp [Shape.parts, u.2])
  · exact length_of_mem_shape _h (by simp [Shape.parts, u.2])
  · exact length_of_mem_shape _h (by simp [Shape.parts])

theorem parse_eq (t : Text) : parse t =
    match shape t with
    | .error e => .error e
    | .ok (.name name) => .ok (.simple name)
    | .ok (.optional body) => do return .optional (← parse body)
    | .ok (.group inner) => parse inner
    | .ok (.application name first rest) => do
      let first' ← parse first
      let rest' ← rest.mapM parse
      return .generic name first' rest'
    | .ok (.closure parameters result escaping attributes effects) => do
      let parameters' ← parameters.mapM parse
      let result' ← parse result
      return .function parameters' result' escaping attributes effects := by
  rw [parse]
  split <;> simp_all

/-- The trees of a list of types. A blank text is the empty list. -/
def parseList (t : Text) : Except Unresolved (List TypeExpr) := do
  (← listParts t).mapM parse

end ViewCases.TypeExpr
