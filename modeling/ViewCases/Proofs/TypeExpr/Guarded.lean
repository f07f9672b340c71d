import ViewCases.EnumFile
import ViewCases.Proofs.Outcome
import ViewCases.Proofs.TypeExpr.Accepted

/-! Reading a type where every step fails in its own way: a scan that starts at no bracket,
a search for a character that is not there, an application to nothing. The conditions under
which the steps are taken rule these failures out, so a text can only turn out to be no
type. -/
namespace ViewCases
open Text ViewCases.Bracket

/-- What a step can end in. The first three are mistakes of the reader and not of the
text. -/
inductive Thrown
  | scan (e : ScanError)
  | notFound (c : Char)
  | noArguments (e : TypeExpr.NoArguments)
  | unresolved (u : TypeExpr.Unresolved)
  | generation (e : EnumFile.GenerationError)

def tryPartner (t : Text) (i : Nat) : Except Thrown (Option Nat) :=
  (findMatching t i).mapError .scan

def tryInside (t : Text) : Except Thrown (Option Text) :=
  (enclosed "(" t).mapError .scan

def tryPosition (c : Char) (t : Text) : Except Thrown Nat :=
  match t.idxOf? c with
  | some i => .ok i
  | none => .error (.notFound c)

theorem tryPartner_opener (b : Bracket) (a t : Text) :
    tryPartner (a ++ b.opener :: t) a.length =
      .ok ((b.partner? (b.opener :: t)).map (a.length + ·)) := by
  rw [tryPartner, findMatching_opener]
  rfl

theorem tryInside_eq (t : Text) : tryInside t = .ok (insideParens? t) := by
  unfold tryInside enclosed insideParens?
  cases s : strip t with
  | nil => rfl
  | cons c cs =>
    by_cases paren : c = '('
    · subst paren
      have scan := findMatching_opener .paren [] cs
      simp only [opener, List.nil_append, List.length_nil, Nat.zero_add, Option.map_id_fun',
        id_eq] at scan
      have begins : ("(" : Text).isPrefixOf ('(' :: cs) = true := by simp
      simp only [begins, if_true, scan, bind, Except.bind, pure, Except.pure, Except.mapError,
        List.length_cons, Nat.add_sub_cancel, List.drop_one, List.tail_cons]
    · have begins : ("(" : Text).isPrefixOf (c :: cs) = false := by
        have differ : ('(' == c) = false := by simpa using Ne.symm paren
        simp [List.isPrefixOf, differ]
      simp only [begins, Bool.false_eq_true, if_false, Except.mapError]
      split
      · next rest eq => exact absurd (List.cons.inj eq).1 paren
      · rfl

theorem tryPosition_append {c : Char} {a : Text} (h : c ∉ a) (t : Text) :
    tryPosition c (a ++ c :: t) = .ok a.length := by
  have found : (a ++ c :: t).idxOf? c = some a.length := by
    induction a with
    | nil => simp [List.idxOf?_cons]
    | cons d ds ih =>
      have differ : d ≠ c := fun eq => h (eq ▸ List.mem_cons_self)
      have later : c ∉ ds := fun mem => h (List.mem_cons_of_mem d mem)
      simp [List.idxOf?_cons, differ, ih later]
  rw [tryPosition, found]

namespace TypeExpr

def tryAttribute (s head : Text) : Except Thrown (Text × Text) :=
  match Attribute.name? head with
  | none => .error (.unresolved ⟨s, .malformedAttribute⟩)
  | some (name, _) =>
    let stop := name.length + 1
    if attributesWithArgument.contains name ∧ (head.drop stop).head? = some '(' then
      match tryPartner head stop with
      | .error e => .error e
      | .ok none => .error (.unresolved ⟨s, .unterminatedAttribute⟩)
      | .ok (some close) => .ok (head.take (close + 1), head.drop (close + 1))
    else .ok (head.take stop, head.drop stop)

def refused (s : Text) (reason : Reason) : Thrown := .unresolved ⟨s, reason⟩

theorem tryAttribute_eq (s head : Text) :
    tryAttribute s head = (takeAttribute head).mapError (refused s) := by
  unfold tryAttribute takeAttribute
  cases named : Attribute.name? head with
  | none => rfl
  | some found =>
    obtain ⟨name, rest⟩ := found
    have cut := Attribute.name?_cut named
    have word := cut 0
    rw [Nat.add_zero, List.take_zero, List.append_nil, List.drop_zero] at word
    simp only [word]
    by_cases argument : attributesWithArgument.contains name = true ∧ rest.head? = some '('
    · rw [if_pos argument, if_pos argument, tryPartner,
        Attribute.findMatching_argument named argument.2]
      cases partner? .paren rest with
      | none => rfl
      | some close =>
        simp only [Except.mapError, Option.map_some, Nat.add_assoc _ close, cut]
    · rw [if_neg argument, if_neg argument]
      rfl

def tryAttributes (s head : Text) : Except Thrown (List Text × Text) :=
  if head.head? = some '@' then
    match _h : tryAttribute s head with
    | .error e => .error e
    | .ok (mark, rest) =>
      match tryAttributes s (stripStart rest) with
      | .error e => .error e
      | .ok (marks, rest) => .ok (mark :: marks, rest)
  else .ok ([], head)
termination_by head.length
decreasing_by
  rw [tryAttribute_eq] at _h
  cases taken : takeAttribute head with
  | error reason =>
    rw [taken] at _h
    cases _h
  | ok found =>
    rw [taken] at _h
    cases _h
    obtain ⟨ne, rfl⟩ := takeAttribute_eq_append taken
    have := length_stripStart_le rest
    have := List.length_pos_iff.2 ne
    simp
    omega

theorem tryAttributes_eq (s head : Text) :
    tryAttributes s head = (takeAttributes head).mapError (refused s) := by
  fun_induction takeAttributes head with
  | case1 head first reason taken =>
    rw [tryAttributes, if_pos first]
    split
    · next e eq =>
      rw [tryAttribute_eq, taken] at eq
      cases eq
      rfl
    · next mark rest eq =>
      rw [tryAttribute_eq, taken] at eq
      cases eq
  | case2 head first mark rest taken reason later ih =>
    rw [tryAttributes, if_pos first]
    split
    · next e eq =>
      rw [tryAttribute_eq, taken] at eq
      cases eq
    · next mark' rest' eq =>
      rw [tryAttribute_eq, taken] at eq
      cases eq
      rw [ih, later]
      rfl
  | case3 head first mark rest taken marks rest' later ih =>
    rw [tryAttributes, if_pos first]
    split
    · next e eq =>
      rw [tryAttribute_eq, taken] at eq
      cases eq
    · next mark' rest'' eq =>
      rw [tryAttribute_eq, taken] at eq
      cases eq
      rw [ih, later]
      rfl
  | case4 head other =>
    rw [tryAttributes, if_neg other]
    rfl

def tryClosure (s : Text) (arrow : Nat) : Except Thrown Shape :=
  let result := strip (s.drop (arrow + 2))
  if result.isEmpty then .error (refused s .noReturnType)
  else do
    let (marks, head) ← tryAttributes s (strip (s.take arrow))
    let (head, effects) := splitEffects head
    if head.isEmpty then .error (refused s .noParameterList)
    else
      let inner ← tryInside head
      let parameters ← (listParts (inner.getD head)).mapError .unresolved
      return .closure parameters result (marks.contains escapingAttribute)
        (marks.filter (· ≠ escapingAttribute)) effects

theorem tryClosure_eq (s : Text) (arrow : Nat) :
    tryClosure s arrow = (closureShape s arrow).mapError .unresolved := by
  unfold tryClosure closureShape
  by_cases empty : (strip (s.drop (arrow + 2))).isEmpty = true
  · rw [if_pos empty, if_pos empty]
    rfl
  · rw [if_neg empty, if_neg empty, tryAttributes_eq]
    cases takeAttributes (strip (s.take arrow)) with
    | error reason => rfl
    | ok found =>
      obtain ⟨marks, head⟩ := found
      simp only [Except.mapError, bind, Except.bind, tryInside_eq]
      split
      · rfl
      · cases listParts ((insideParens? (splitEffects head).1).getD (splitEffects head).1) with
        | error u => rfl
        | ok parameters => rfl

def tryApplication (s : Text) : Except Thrown Shape := do
  let start ← tryPosition '<' s
  match ← tryPartner s start with
  | none => .error (refused s .unclosedArguments)
  | some close =>
    let base := strip (s.take start)
    let span := (s.take close).drop (start + 1)
    if close + 1 ≠ s.length then .ok (.name s)
    else if base.isEmpty then .error (refused s .noBaseName)
    else if span.all isBlank then .error (refused s .noArguments)
    else match ← (listParts span).mapError .unresolved with
      | [] => .error (.noArguments ⟨base⟩)
      | first :: rest => .ok (.application base first rest)

theorem listParts_blank {t : Text} (h : t.all isBlank = true) : listParts t = .ok [] := by
  simp [listParts, splitTopLevel, splitTopLevelBy, h]

theorem listParts_ne_nil {t : Text} (h : t.all isBlank = false) : listParts t ≠ .ok [] := by
  intro empty
  have none := (listParts_eq_ok empty).symm
  simp only [splitTopLevel, splitTopLevelBy, h, Bool.false_eq_true, if_false,
    List.map_eq_nil_iff] at none
  exact segmentsFrom_ne_nil _ _ _ _ none

theorem tryApplication_eq {s : Text} (mem : '<' ∈ s) :
    tryApplication s = (applicationShape s).mapError .unresolved := by
  obtain ⟨rest, behind, whole⟩ := dropWhile_ne_of_mem mem
  have absent := takeWhile_ne_not_mem (c := '<') s
  unfold applicationShape
  simp only [behind]
  generalize s.takeWhile (· ≠ '<') = base at *
  subst whole
  have start : tryPosition '<' (base ++ '<' :: rest) = .ok base.length :=
    tryPosition_append absent rest
  have scan : tryPartner (base ++ '<' :: rest) base.length =
      .ok ((partner? .angle ('<' :: rest)).map (base.length + ·)) :=
    tryPartner_opener .angle base rest
  simp only [tryApplication, start, scan, bind, Except.bind]
  cases partner? .angle ('<' :: rest) with
  | none => rfl
  | some close =>
    simp only [Option.map_some, List.length_append, List.length_cons, List.take_left]
    by_cases last : close + 1 = rest.length + 1
    · have span : ((base ++ '<' :: rest).take (base.length + close)).drop (base.length + 1) =
          (('<' :: rest).drop 1).dropLast := by
        have len : close = rest.length := by omega
        rw [List.take_length_add_append, ← List.drop_drop, List.drop_left, len, List.drop_take,
          List.drop_one, List.tail_cons, List.dropLast_eq_take]
      have here : base.length + close + 1 = base.length + (rest.length + 1) := by omega
      simp only [here, last, ne_eq, not_true, if_false, span]
      by_cases named : (strip base).isEmpty = true
      · simp only [named, if_true]
        rfl
      · simp only [named, Bool.false_eq_true, if_false]
        cases blank : (('<' :: rest).drop 1).dropLast.all isBlank with
        | true =>
          rw [listParts_blank blank]
          rfl
        | false =>
          have inhabited := listParts_ne_nil blank
          cases parts : listParts (('<' :: rest).drop 1).dropLast with
          | error u => rfl
          | ok segments =>
            cases segments with
            | nil => exact absurd parts inhabited
            | cons first others => rfl
    · have other : base.length + close + 1 ≠ base.length + (rest.length + 1) := by omega
      rw [if_pos other, if_pos last]
      rfl

def tryShape (t : Text) : Except Thrown Shape :=
  let s := strip t
  if s.isEmpty then .error (refused t .empty)
  else if !isBalanced s then .error (refused t .unbalanced)
  else match findTopLevel ['-', '>'] s with
    | some arrow => tryClosure s arrow
    | none =>
      if s.getLast? = some '?' then .ok (.optional s.dropLast)
      else match tryInside s with
        | .error e => .error e
        | .ok (some inner) =>
          if (splitTopLevel inner).length = 1 then .ok (.group inner)
          else if s.contains '<' then tryApplication s else .ok (.name s)
        | .ok none => if s.contains '<' then tryApplication s else .ok (.name s)

theorem tryShape_eq (t : Text) : tryShape t = (shape t).mapError .unresolved := by
  have applied : ∀ s : Text,
      (if s.contains '<' then tryApplication s else .ok (.name s)) =
        Except.mapError Thrown.unresolved
          (if s.contains '<' then applicationShape s else .ok (.name s)) := by
    intro s
    by_cases mem : s.contains '<' = true
    · rw [if_pos mem, if_pos mem]
      exact tryApplication_eq (List.contains_iff_mem.mp mem)
    · rw [if_neg mem, if_neg mem]
      rfl
  unfold tryShape shape
  simp only [tryInside_eq]
  cases (strip t).isEmpty with
  | true => rfl
  | false =>
    cases isBalanced (strip t) with
    | false => rfl
    | true =>
      simp only [Bool.false_eq_true, if_false, Bool.not_true]
      cases findTopLevel ['-', '>'] (strip t) with
      | some arrow => exact tryClosure_eq _ _
      | none =>
        by_cases mark : (strip t).getLast? = some '?'
        · simp only [mark, if_true]
          rfl
        · simp only [mark, if_false]
          cases insideParens? (strip t) with
          | none => exact applied _
          | some inner =>
            by_cases one : (splitTopLevel inner).length = 1
            · simp only [one, if_true]
              rfl
            · simp only [one, if_false]
              exact applied _

theorem shape_of_tryShape {t : Text} {sh : Shape} (h : tryShape t = .ok sh) :
    shape t = .ok sh := by
  rw [tryShape_eq] at h
  cases shaped : shape t with
  | error u =>
    rw [shaped] at h
    cases h
  | ok sh' =>
    rw [shaped] at h
    cases h
    rfl

def tryParse (t : Text) : Except Thrown TypeExpr :=
  match _h : tryShape t with
  | .error e => .error e
  | .ok (.name name) => .ok (.simple name)
  | .ok (.optional body) => do return .optional (← tryParse body)
  | .ok (.group inner) => tryParse inner
  | .ok (.application name first rest) => do
    let first' ← tryParse first
    let rest' ← rest.attach.mapM fun u => tryParse u.1
    return .generic name first' rest'
  | .ok (.closure parameters result escaping attributes effects) => do
    let parameters' ← parameters.attach.mapM fun u => tryParse u.1
    let result' ← tryParse result
    return .function parameters' result' escaping attributes effects
termination_by t.length
decreasing_by
  · exact length_of_mem_shape (shape_of_tryShape _h) (by simp [Shape.parts])
  · exact length_of_mem_shape (shape_of_tryShape _h) (by simp [Shape.parts])
  · exact length_of_mem_shape (shape_of_tryShape _h) (by simp [Shape.parts])
  · exact length_of_mem_shape (shape_of_tryShape _h) (by simp [Shape.parts, u.2])
  · exact length_of_mem_shape (shape_of_tryShape _h) (by simp [Shape.parts, u.2])
  · exact length_of_mem_shape (shape_of_tryShape _h) (by simp [Shape.parts])

theorem tryParse_step (t : Text) : tryParse t =
    match tryShape t with
    | .error e => .error e
    | .ok (.name name) => .ok (.simple name)
    | .ok (.optional body) => do return .optional (← tryParse body)
    | .ok (.group inner) => tryParse inner
    | .ok (.application name first rest) => do
      let first' ← tryParse first
      let rest' ← rest.mapM tryParse
      return .generic name first' rest'
    | .ok (.closure parameters result escaping attributes effects) => do
      let parameters' ← parameters.mapM tryParse
      let result' ← tryParse result
      return .function parameters' result' escaping attributes effects := by
  rw [tryParse]
  split <;> simp_all

/-- A text is read as it is without guards: no step is a mistake of the reader. -/
theorem tryParse_eq (t : Text) : tryParse t = (parse t).mapError .unresolved := by
  induction len : t.length using Nat.strongRecOn generalizing t with
  | _ n ih =>
    subst len
    have parts : ∀ {sh : Shape}, shape t = .ok sh → ∀ u ∈ sh.parts,
        tryParse u = (parse u).mapError .unresolved := fun shaped u hu =>
      ih _ (length_of_mem_shape shaped hu) u rfl
    rw [tryParse_step, parse_eq, tryShape_eq]
    cases shaped : shape t with
    | error u => rfl
    | ok sh =>
      have parts := parts shaped
      cases sh with
      | name name => rfl
      | optional body =>
        simp only [Except.mapError, parts body List.mem_cons_self]
        cases parse body with
        | error u => rfl
        | ok e => rfl
      | group inner => exact parts inner List.mem_cons_self
      | application name first rest =>
        simp only [Except.mapError, parts first List.mem_cons_self,
          mapM_mapError fun u hu => parts u (List.mem_cons_of_mem first hu)]
        cases parse first with
        | error u => rfl
        | ok e =>
          cases rest.mapM parse with
          | error u => rfl
          | ok es => rfl
      | closure parameters result escaping attributes effects =>
        simp only [Except.mapError,
          parts result (List.mem_append_right parameters List.mem_cons_self),
          mapM_mapError fun u hu => parts u (List.mem_append_left [result] hu)]
        cases parameters.mapM parse with
        | error u => rfl
        | ok es =>
          cases parse result with
          | error u => rfl
          | ok e => rfl

end TypeExpr

end ViewCases
