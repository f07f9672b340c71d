import ViewCases.Proofs.Bracket.Literal
import ViewCases.Proofs.TypeExpr.Guarded

/-! Reading a type ends on every text. Every step calls for shorter texts only, so how a longer
one would be read has no influence, and a text can only turn out to be no type. Two of the
reasons never arise: a text that is balanced has a partner for its first angle bracket, and
what stands before its first arrow closes the parentheses of its attributes. -/
namespace ViewCases.TypeExpr
open Text ViewCases.Bracket

/-- One step of reading, with `call` to read the parts. -/
def tryStep (call : Text → Except Thrown TypeExpr) (t : Text) : Except Thrown TypeExpr :=
  match tryShape t with
  | .error e => .error e
  | .ok (.name name) => .ok (.simple name)
  | .ok (.optional body) => do return .optional (← call body)
  | .ok (.group inner) => call inner
  | .ok (.application name first rest) => do
    let first' ← call first
    let rest' ← rest.mapM call
    return .generic name first' rest'
  | .ok (.closure parameters result escaping attributes effects) => do
    let parameters' ← parameters.mapM call
    let result' ← call result
    return .function parameters' result' escaping attributes effects

/-- Reading with calls nested up to `n` deep; what is deeper is left to `beyond`. -/
def tryNested (beyond : Text → Except Thrown TypeExpr) : Nat → Text → Except Thrown TypeExpr
  | 0 => beyond
  | n + 1 => tryStep (tryNested beyond n)

theorem tryParse_eq_tryStep (t : Text) : tryParse t = tryStep tryParse t :=
  tryParse_step t

theorem length_of_mem_tryShape {t u : Text} {sh : Shape} (h : tryShape t = .ok sh)
    (mem : u ∈ sh.parts) : u.length < t.length :=
  length_of_mem_shape (shape_of_tryShape h) mem

/-- A step depends on the answers for shorter texts only. -/
theorem tryStep_congr {call other : Text → Except Thrown TypeExpr} {t : Text}
    (same : ∀ u, u.length < t.length → call u = other u) : tryStep call t = tryStep other t := by
  unfold tryStep
  cases shaped : tryShape t with
  | error e => rfl
  | ok sh =>
    have parts : ∀ u ∈ sh.parts, call u = other u := fun u mem =>
      same u (length_of_mem_tryShape shaped mem)
    cases sh with
    | name name => rfl
    | optional body => simp only [parts body List.mem_cons_self]
    | group inner => exact parts inner List.mem_cons_self
    | application name first rest =>
      have others : rest.mapM call = rest.mapM other :=
        mapM_congr fun u mem => parts u (List.mem_cons_of_mem first mem)
      simp only [parts first List.mem_cons_self, others]
    | closure parameters result escaping attributes effects =>
      have all : parameters.mapM call = parameters.mapM other :=
        mapM_congr fun u mem => parts u (List.mem_append_left [result] mem)
      simp only [all, parts result (List.mem_append_right parameters List.mem_cons_self)]

theorem tryNested_eq (beyond : Text → Except Thrown TypeExpr) {n : Nat} {t : Text}
    (h : t.length < n) : tryNested beyond n t = tryParse t := by
  induction n generalizing t with
  | zero => omega
  | succ n ih =>
    rw [tryNested, tryParse_eq_tryStep]
    exact tryStep_congr fun u shorter => ih (by omega)

theorem balancedFrom_paren (prev : Option Char) (d : Nat) (t : Text) :
    balancedFrom .paren prev d t = balancedFrom .paren none d t := by
  cases t with
  | nil => rfl
  | cons c cs =>
    have shuts : closes .paren prev c = closes .paren none c := by
      by_cases paren : c = ')'
      · subst paren
        rfl
      · simp [closes, closer, beq_eq_false_iff_ne.mpr paren]
    simp only [balancedFrom, shuts]

theorem parensClosed_append_plain {a : Text} (plain : ∀ c ∈ a, isPlain c = true) (t : Text) :
    ParensClosed (a ++ t) ↔ ParensClosed t := by
  unfold ParensClosed
  induction a with
  | nil => rfl
  | cons c cs ih =>
    obtain ⟨here, later⟩ := List.forall_mem_cons.mp plain
    rw [List.cons_append, balancedFrom_of_not_bracket .paren (not_isBracket_of_isPlain here _),
      balancedFrom_paren, ih later]

theorem parensClosed_behind_partner {t : Text} {close : Nat} (closed : ParensClosed ('(' :: t))
    (h : partner? .paren ('(' :: t) = some close) :
    ParensClosed (('(' :: t).drop (close + 1)) := by
  have inside : balancedFrom .paren (some '(') (0 + 1) t = true := by
    simpa [ParensClosed, balancedFrom, opener] using closed
  have partner : partnerFrom .paren (some '(') 1 1 t = some close := by
    simpa [partner?, partnerFrom, opener] using h
  have behind := balancedFrom_behind_partner inside (Nat.le_refl 1) partner
  have place := (partnerFrom_lt partner).1
  have shift : close - 1 + 1 = close := by omega
  rw [shift, balancedFrom_paren] at behind
  exact behind

theorem name?_split {head name rest : Text} (h : Attribute.name? head = some (name, rest)) :
    head = '@' :: name ++ rest ∧ ∀ c ∈ '@' :: name, isPlain c = true := by
  refine ⟨(Attribute.name?_eq_some h).2, ?_⟩
  have chars : ∀ c ∈ name, isWord c = true := by
    unfold Attribute.name? at h
    split at h
    · split at h
      · cases h
      · cases h
        exact fun c mem => List.all_eq_true.mp List.all_takeWhile c mem
    · cases h
  intro c mem
  rcases List.mem_cons.mp mem with rfl | mem
  · rfl
  · exact isPlain_of_isWord (chars c mem)

theorem takeAttribute_parens {head : Text} (closed : ParensClosed head) :
    (∀ reason, takeAttribute head = .error reason → reason = .malformedAttribute) ∧
      ∀ mark rest, takeAttribute head = .ok (mark, rest) → ParensClosed rest := by
  unfold takeAttribute
  cases named : Attribute.name? head with
  | none => exact ⟨by rintro _ ⟨⟩; rfl, by rintro _ _ ⟨⟩⟩
  | some found =>
    obtain ⟨name, rest⟩ := found
    obtain ⟨rfl, plain⟩ := name?_split named
    have behind : ParensClosed rest := (parensClosed_append_plain plain rest).mp closed
    by_cases argument : attributesWithArgument.contains name = true ∧ rest.head? = some '('
    · simp only [if_pos argument]
      obtain ⟨cs, rfl⟩ : ∃ cs, rest = '(' :: cs := by
        cases rest with
        | nil => cases argument.2
        | cons c cs => exact ⟨cs, by rw [Option.some.inj argument.2]⟩
      have whole : balancedFrom .paren none 0 ([] ++ Bracket.paren.opener :: cs) = true := behind
      obtain ⟨close, partner⟩ := exists_partner whole
      change partner? .paren ('(' :: cs) = some close at partner
      simp only [partner]
      refine ⟨by rintro _ ⟨⟩, ?_⟩
      rintro _ _ ⟨⟩
      exact parensClosed_behind_partner behind partner
    · simp only [if_neg argument]
      refine ⟨by rintro _ ⟨⟩, ?_⟩
      rintro _ _ ⟨⟩
      exact behind

theorem parensClosed_stripStart {t : Text} (closed : ParensClosed t) :
    ParensClosed (stripStart t) := by
  obtain ⟨l, blank, eq⟩ := stripStart_decompose t
  rw [eq] at closed
  exact (parensClosed_append_plain (fun c mem => isPlain_of_isBlank (blank c mem)) _).mp closed

theorem takeAttributes_error {head : Text} {reason : Reason} (closed : ParensClosed head)
    (h : takeAttributes head = .error reason) : reason = .malformedAttribute := by
  fun_induction takeAttributes head with
  | case1 head first reason' taken =>
    cases h
    exact (takeAttribute_parens closed).1 _ taken
  | case2 head first mark rest taken reason' later ih =>
    cases h
    exact ih (parensClosed_stripStart ((takeAttribute_parens closed).2 _ _ taken)) later
  | case3 => cases h
  | case4 => cases h

def Reason.Arises (r : Reason) : Prop := r ≠ .unclosedArguments ∧ r ≠ .unterminatedAttribute

theorem listParts_error {t : Text} {u : Unresolved} (h : listParts t = .error u) :
    u.reason = .emptyInList := by
  unfold listParts at h
  simp only at h
  split at h
  · cases h
    rfl
  · cases h

theorem arises_of_closureShape {before behind : Text} {u : Unresolved}
    (closed : Closed (marks before))
    (h : closureShape (before ++ '-' :: '>' :: behind) before.length = .error u) :
    u.reason.Arises := by
  have left : (before ++ '-' :: '>' :: behind).take before.length = before := List.take_left
  have parens : ParensClosed (strip before) := by
    rw [← marks_strip] at closed
    exact parensClosed_of_isBalanced (isBalanced_iff.mpr closed)
  unfold closureShape at h
  simp only [left] at h
  split at h
  · cases h
    simp [Reason.Arises]
  · split at h
    · next reason failed =>
      cases h
      simp [Reason.Arises, takeAttributes_error parens failed]
    · split at h
      · cases h
        simp [Reason.Arises]
      · split at h
        · next e failed =>
          cases h
          simp [Reason.Arises, listParts_error failed]
        · cases h

theorem arises_of_applicationShape {s : Text} {u : Unresolved} (balanced : isBalanced s = true)
    (mem : '<' ∈ s) (h : applicationShape s = .error u) : u.reason.Arises := by
  obtain ⟨r, tail, whole⟩ := dropWhile_ne_of_mem mem
  have counted : balancedFrom .angle none 0 s = true :=
    List.all_eq_true.mp balanced .angle (by decide)
  rw [whole] at counted
  obtain ⟨close, partner⟩ := exists_partner (b := .angle) counted
  change partner? .angle ('<' :: r) = some close at partner
  unfold applicationShape at h
  simp only [tail, partner] at h
  split at h
  · cases h
  · split at h
    · cases h
      simp [Reason.Arises]
    · split at h
      · next e failed =>
        cases h
        simp [Reason.Arises, listParts_error failed]
      · cases h
        simp [Reason.Arises]
      · cases h

theorem arises_of_shape {t : Text} {u : Unresolved} (h : shape t = .error u) :
    u.reason.Arises := by
  unfold shape at h
  simp only at h
  split at h
  · cases h
    simp [Reason.Arises]
  · split at h
    · cases h
      simp [Reason.Arises]
    · next unbalanced =>
      have balanced : isBalanced (strip t) = true := by simpa using unbalanced
      have applied : (if (strip t).contains '<' then applicationShape (strip t)
          else .ok (.name (strip t))) = .error u → u.reason.Arises := by
        intro failed
        split at failed
        · next angle =>
          exact arises_of_applicationShape balanced (List.contains_iff_mem.mp angle) failed
        · cases failed
      rcases findTopLevel_arrow_cases (isBalanced_iff.mp balanced) with
        ⟨found, -⟩ | ⟨a, r, eq, found, closed, -⟩
      · rw [found] at h
        simp only at h
        split at h
        · cases h
        · split at h
          · split at h
            · cases h
            · exact applied h
          · exact applied h
      · rw [found] at h
        rw [eq] at h
        exact arises_of_closureShape closed h

/-- A text that is not read fails itself, or in one of its parts. -/
theorem parse_error_cases {t : Text} {u : Unresolved} (h : parse t = .error u) :
    shape t = .error u ∨ ∃ sh, shape t = .ok sh ∧ ∃ v ∈ sh.parts, parse v = .error u := by
  rw [parse_eq] at h
  cases shaped : shape t with
  | error e =>
    simp only [shaped] at h
    cases h
    exact .inl rfl
  | ok sh =>
    refine .inr ⟨sh, rfl, ?_⟩
    cases sh with
    | name name =>
      simp only [shaped] at h
      cases h
    | optional body =>
      simp only [shaped] at h
      rcases bind_eq_error h with failed | ⟨_, _, ⟨⟩⟩
      exact ⟨body, List.mem_cons_self, failed⟩
    | group inner =>
      simp only [shaped] at h
      exact ⟨inner, List.mem_cons_self, h⟩
    | application name first rest =>
      simp only [shaped] at h
      rcases bind_eq_error h with failed | ⟨e, -, h⟩
      · exact ⟨first, List.mem_cons_self, failed⟩
      · rcases bind_eq_error h with failed | ⟨_, _, ⟨⟩⟩
        obtain ⟨v, mem, failed⟩ := mapM_eq_error failed
        exact ⟨v, List.mem_cons_of_mem first mem, failed⟩
    | closure parameters result escaping attributes effects =>
      simp only [shaped] at h
      rcases bind_eq_error h with failed | ⟨es, -, h⟩
      · obtain ⟨v, mem, failed⟩ := mapM_eq_error failed
        exact ⟨v, List.mem_append_left [result] mem, failed⟩
      · rcases bind_eq_error h with failed | ⟨_, _, ⟨⟩⟩
        exact ⟨result, List.mem_append_right parameters List.mem_cons_self, failed⟩

theorem arises_of_parse {t : Text} {u : Unresolved} (h : parse t = .error u) :
    u.reason.Arises := by
  induction len : t.length using Nat.strongRecOn generalizing t with
  | _ n ih =>
    subst len
    rcases parse_error_cases h with failed | ⟨sh, shaped, v, mem, failed⟩
    · exact arises_of_shape failed
    · exact ih v.length (length_of_mem_shape shaped mem) failed rfl

/-- Reading ends on every text, with a tree or with a reason why the text is no type. The parts
that a step reads are shorter than its text, and nothing else is asked for: any reader that
answers for shorter texts in the same way will do, and calls nested one deeper than the text is
long are never made. No scan starts at a character that is no bracket, no character is missing
where one is looked for and no application is left without arguments; of the reasons neither an
angle bracket without a partner nor an argument without an end arises. -/
theorem tryParse_total (t : Text) :
    (∀ sh, tryShape t = .ok sh → ∀ u ∈ sh.parts, u.length < t.length) ∧
    (∀ call, (∀ u, u.length < t.length → call u = tryParse u) → tryStep call t = tryParse t) ∧
    (∀ beyond n, t.length < n → tryNested beyond n t = tryParse t) ∧
    ((∃ e, parse t = .ok e ∧ tryParse t = .ok e) ∨
      ∃ u, parse t = .error u ∧ tryParse t = .error (.unresolved u) ∧
        u.reason ≠ .unclosedArguments ∧ u.reason ≠ .unterminatedAttribute) := by
  refine ⟨fun sh shaped u mem => length_of_mem_tryShape shaped mem, ?_, ?_, ?_⟩
  · intro call same
    rw [tryParse_eq_tryStep]
    exact tryStep_congr same
  · intro beyond n deep
    exact tryNested_eq beyond deep
  · rw [tryParse_eq]
    cases read : parse t with
    | ok e => exact .inl ⟨e, rfl, rfl⟩
    | error u => exact .inr ⟨u, rfl, rfl, arises_of_parse read⟩

end ViewCases.TypeExpr
