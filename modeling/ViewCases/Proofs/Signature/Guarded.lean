import ViewCases.Proofs.Attribute
import ViewCases.Proofs.Signature.Lead

/-! Reading a header by steps that can fail: a search for a partner that starts at no bracket, a
word that is taken where none begins, an item of a list that is too short. Each step stands
behind a test that rules its failure out, so a header is read or it is none. -/
namespace ViewCases
open Text ViewCases.Bracket

/-- A mistake of the reader. -/
inductive Misstep
  | scan (e : ScanError)
  | noWord
  | noItem
  deriving DecidableEq, Repr

namespace Attribute

def tryTake? (t : Text) : Except Misstep (Option (Text × Text)) :=
  match name? t with
  | none => .ok none
  | some (name, _) =>
    let stop := name.length + 1
    if (t.drop stop).head? = some '(' then
      match findMatching t stop with
      | .error e => .error (.scan e)
      | .ok (some close) => .ok (some (t.take (close + 1), t.drop (close + 1)))
      | .ok none => .ok (some (t, []))
    else .ok (some (t.take stop, t.drop stop))

theorem tryTake?_eq (t : Text) : tryTake? t = .ok (take? t) := by
  unfold tryTake? take?
  cases named : name? t with
  | none => rfl
  | some found =>
    obtain ⟨name, rest⟩ := found
    have cut := name?_cut named
    have word := cut 0
    rw [Nat.add_zero, List.take_zero, List.append_nil, List.drop_zero] at word
    simp only [word, takeArgument]
    by_cases argument : rest.head? = some '('
    · rw [if_pos argument, if_pos argument, findMatching_argument named argument]
      cases partner? .paren rest with
      | none => simp only [Option.map_none, (name?_eq_some named).2]
      | some close => simp only [Option.map_some, Nat.add_assoc _ close, cut]
    · rw [if_neg argument, if_neg argument, List.append_nil]

def tryTakeAll (t : Text) : Except Misstep (List Text × Text) :=
  match _h : tryTake? (stripStart t) with
  | .error e => .error e
  | .ok none => .ok ([], stripStart t)
  | .ok (some (mark, rest)) => do
    let (marks, rest) ← tryTakeAll rest
    return (mark :: marks, rest)
termination_by t.length
decreasing_by
  rw [tryTake?_eq] at _h
  obtain ⟨hne, he⟩ := take?_eq_some (Except.ok.inj _h)
  have := List.length_pos_iff.2 hne
  have := length_stripStart_le t
  have := congrArg List.length he
  simp at this
  omega

theorem tryTakeAll_eq (t : Text) : tryTakeAll t = .ok (takeAll t) := by
  fun_induction tryTakeAll t with
  | case1 t e failed =>
    rw [tryTake?_eq] at failed
    cases failed
  | case2 t none =>
    rw [tryTake?_eq] at none
    rw [takeAll_of_none (Except.ok.inj none)]
  | case3 t mark rest found ih =>
    rw [tryTake?_eq] at found
    rw [ih, takeAll_of_take? (Except.ok.inj found)]
    rfl

theorem head_takeAll (t : Text) : ∀ c, (takeAll t).2.head? = some c → isBlank c = false := by
  fun_induction takeAll t with
  | case1 t none => exact head_stripStart t
  | case2 t mark rest found marks rest' later ih => simpa only [later] using ih

theorem length_takeAll (t : Text) :
    (takeAll t).2.length + (takeAll t).1.length ≤ (stripStart t).length := by
  fun_induction takeAll t with
  | case1 t none => simp
  | case2 t mark rest found marks rest' later ih =>
    simp only [later] at ih
    obtain ⟨inhabited, eq⟩ := take?_eq_some found
    have := List.length_pos_iff.mpr inhabited
    have := length_stripStart_le rest
    have := congrArg List.length eq
    simp only [List.length_append, List.length_cons] at *
    omega

end Attribute

namespace FunctionHeader
open Signature Attribute

def tryWord (t : Text) : Except Misstep (Text × Text) :=
  if (t.takeWhile isLeadWord).isEmpty then .error .noWord
  else .ok (t.takeWhile isLeadWord, t.dropWhile isLeadWord)

theorem tryWord_eq {c : Char} (notBlank : isBlank c = false) (noMark : c ≠ '@') (cs : Text) :
    tryWord (c :: cs) = .ok (c :: cs.takeWhile isLeadWord, cs.dropWhile isLeadWord) := by
  have word : isLeadWord c = true := by simp [isLeadWord, notBlank, noMark]
  simp [tryWord, word]

theorem length_tryWord {t word rest : Text} (h : tryWord t = .ok (word, rest)) :
    rest.length < t.length := by
  unfold tryWord at h
  split at h
  · cases h
  · next inhabited =>
    cases h
    have := List.length_pos_iff.mpr (show t.takeWhile isLeadWord ≠ [] by simpa using inhabited)
    have := congrArg List.length (List.takeWhile_append_dropWhile (p := isLeadWord) (l := t))
    simp only [List.length_append] at this
    omega

/-- What the attributes at an at sign leave; an at sign that begins none is dropped. -/
def behindMarks (marks : List Text) (rest : Text) : Text :=
  if marks.isEmpty then stripStart (rest.drop 1) else rest

theorem length_behindMarks {t : Text} (mark : t.head? = some '@') :
    (behindMarks (takeAll t).1 (takeAll t).2).length < t.length := by
  obtain ⟨cs, rfl⟩ := List.head?_eq_some_iff.mp mark
  have taken := length_takeAll ('@' :: cs)
  have whole := length_stripStart_le ('@' :: cs)
  rw [List.length_cons] at whole ⊢
  unfold behindMarks
  split
  · have := length_stripStart_le ((takeAll ('@' :: cs)).2.drop 1)
    rw [List.length_drop] at this
    omega
  · next marks =>
    have := List.length_pos_iff.mpr (show (takeAll ('@' :: cs)).1 ≠ [] by simpa using marks)
    omega

def tryLead? (t : Text) : Except Misstep (Option Lead) :=
  if t.isEmpty then .ok none
  else if _mark : t.head? = some '@' then
    match _h : tryTakeAll t with
    | .error e => .error e
    | .ok (marks, rest) => do
      let lead ← tryLead? (behindMarks marks rest)
      return lead.map fun l => { l with attributes := marks ++ l.attributes }
  else
    match _h : tryWord t with
    | .error e => .error e
    | .ok (word, rest) =>
      if word = "func" then .ok (some ⟨[], [], stripStart rest⟩)
      else do
        let lead ← tryLead? (stripStart rest)
        return lead.map fun l => { l with words := word.takeWhile (· ≠ '(') :: l.words }
termination_by t.length
decreasing_by
  · rw [tryTakeAll_eq] at _h
    have shorter := length_behindMarks _mark
    rwa [Except.ok.inj _h] at shorter
  · exact Nat.lt_of_le_of_lt (length_stripStart_le rest) (length_tryWord _h)

theorem takeLead?_takeAll (t : Text) : takeLead? (stripStart t) =
    (takeLead? (takeAll t).2).map fun l =>
      { l with attributes := (takeAll t).1 ++ l.attributes } := by
  fun_induction takeAll t with
  | case1 t none => simp
  | case2 t mark rest found marks rest' later ih =>
    obtain ⟨cs, eq⟩ := List.head?_eq_some_iff.mp (take?_head found)
    rw [eq] at found
    rw [eq, takeLead?_mark found, ih, later, Option.map_map]
    rfl

theorem takeLead?_behindMarks {t : Text} (start : ∀ c, t.head? = some c → isBlank c = false)
    (mark : t.head? = some '@') :
    takeLead? t = (takeLead? (behindMarks (takeAll t).1 (takeAll t).2)).map fun l =>
      { l with attributes := (takeAll t).1 ++ l.attributes } := by
  have still := stripStart_of_head start
  unfold behindMarks
  split
  · next empty =>
    have noMark : take? (stripStart t) = none := by
      cases found : take? (stripStart t) with
      | none => rfl
      | some pair =>
        rw [takeAll_of_take? found] at empty
        cases empty
    rw [takeAll_of_none noMark]
    rw [still] at noMark ⊢
    obtain ⟨cs, rfl⟩ := List.head?_eq_some_iff.mp mark
    rw [takeLead?_noMark noMark, List.drop_one, List.tail_cons]
    exact Option.map_id'.symm
  · have lead := takeLead?_takeAll t
    rwa [still] at lead

theorem head_behindMarks (t : Text) :
    ∀ c, (behindMarks (takeAll t).1 (takeAll t).2).head? = some c → isBlank c = false := by
  unfold behindMarks
  split
  · exact head_stripStart _
  · exact head_takeAll t

/-- A text that begins with no white space has its lead read without a mistake: where no
attribute begins there is a word. -/
theorem tryLead?_eq {t : Text} (start : ∀ c, t.head? = some c → isBlank c = false) :
    tryLead? t = .ok (takeLead? t) := by
  fun_induction tryLead? t with
  | case1 t empty =>
    rw [List.isEmpty_iff.mp empty, takeLead?]
  | case2 t inhabited mark e failed =>
    rw [tryTakeAll_eq] at failed
    cases failed
  | case3 t inhabited mark marks rest taken ih =>
    rw [tryTakeAll_eq] at taken
    have lead := takeLead?_behindMarks start mark
    have onward := head_behindMarks t
    rw [Except.ok.inj taken] at lead onward
    rw [ih onward, lead]
    rfl
  | case4 t inhabited noMark e failed =>
    obtain ⟨c, cs, rfl⟩ := List.exists_cons_of_ne_nil (mt List.isEmpty_iff.mpr inhabited)
    rw [tryWord_eq (start c rfl) (mt (congrArg some) noMark)] at failed
    cases failed
  | case5 t inhabited noMark rest taken =>
    obtain ⟨c, cs, rfl⟩ := List.exists_cons_of_ne_nil (mt List.isEmpty_iff.mpr inhabited)
    have apart : c ≠ '@' := mt (congrArg some) noMark
    rw [tryWord_eq (start c rfl) apart] at taken
    obtain ⟨word, rfl⟩ := Prod.mk.inj (Except.ok.inj taken)
    rw [takeLead?_word apart]
    simp only [word, if_true]
  | case6 t inhabited noMark word rest taken other ih =>
    obtain ⟨c, cs, rfl⟩ := List.exists_cons_of_ne_nil (mt List.isEmpty_iff.mpr inhabited)
    have apart : c ≠ '@' := mt (congrArg some) noMark
    rw [tryWord_eq (start c rfl) apart] at taken
    obtain ⟨rfl, rfl⟩ := Prod.mk.inj (Except.ok.inj taken)
    rw [ih (head_stripStart _), takeLead?_word apart]
    simp only [if_neg other]
    rfl

end FunctionHeader

def tryItem (ts : List Text) (i : Nat) : Except Misstep Text :=
  match ts[i]? with
  | some t => .ok t
  | none => .error .noItem

namespace Parameter

def tryNames (tokens : List Text) : Except Misstep (Option Text × Text) := do
  let first ← tryItem tokens 0
  if tokens.length = 1 then return (some first, first)
  else return (if first = ['_'] then none else some first, ← tryItem tokens 1)

def tryOfClause? (clause : Text) : Except Misstep (Option Parameter) := do
  let (declaration, default) := splitDefault clause
  match findTopLevel [':'] declaration with
  | none => return none
  | some colon =>
    let (_, names) ← Attribute.tryTakeAll (declaration.take colon)
    let tokens := (words names).map bareName
    let type := strip (declaration.drop (colon + 1))
    if tokens.isEmpty || type.isEmpty then return none
    else
      let (label, name) ← tryNames tokens
      return some {
        label, name, type
        hasDefault := default.isSome
        defaultValue := default.filter fun value => !value.isEmpty }

theorem tryOfClause?_eq (clause : Text) : tryOfClause? clause = .ok (ofClause? clause) := by
  unfold tryOfClause? ofClause? splitNames
  simp only [Attribute.tryTakeAll_eq]
  cases findTopLevel [':'] (splitDefault clause).1 with
  | none => rfl
  | some colon =>
    simp only [bind, Except.bind]
    cases (words (Attribute.takeAll ((splitDefault clause).1.take colon)).2).map bareName with
    | nil => rfl
    | cons first others =>
      cases strip ((splitDefault clause).1.drop (colon + 1)) with
      | nil => cases others <;> rfl
      | cons c type => cases others <;> rfl

end Parameter

namespace FunctionHeader

def tryBracketed? (b : Bracket) (t : Text) : Except Misstep (Option (Text × Text)) :=
  if t.head? = some b.opener then
    match findMatching t 0 with
    | .error e => .error (.scan e)
    | .ok found => .ok (found.map fun close => ((t.take close).drop 1, t.drop (close + 1)))
  else .ok none

theorem tryBracketed?_eq (b : Bracket) (t : Text) :
    tryBracketed? b t = .ok (takeBracketed? b t) := by
  unfold tryBracketed? takeBracketed?
  split
  · next opened =>
    obtain ⟨cs, rfl⟩ := List.head?_eq_some_iff.mp opened
    have scan := findMatching_opener b [] cs
    simp only [List.nil_append, List.length_nil, Nat.zero_add, Option.map_id_fun', id_eq] at scan
    rw [scan]
  · rfl

def tryGenerics? (t : Text) : Except Misstep (Option ((List Text × List Text) × Text)) :=
  if t.head? = some '<' then do
    let found ← tryBracketed? .angle t
    return found.map fun (inner, rest) => (genericClauses inner, stripStart rest)
  else .ok (some (([], []), t))

theorem tryGenerics?_eq (t : Text) : tryGenerics? t = .ok (takeGenerics? t) := by
  unfold tryGenerics? takeGenerics?
  rw [tryBracketed?_eq]
  split <;> rfl

def tryParameters? : List Text → Except Misstep (Option (List Parameter))
  | [] => .ok (some [])
  | clause :: clauses => do
    match ← Parameter.tryOfClause? clause with
    | none => return none
    | some p => return (← tryParameters? clauses).map (p :: ·)

theorem tryParameters?_eq (clauses : List Text) :
    tryParameters? clauses = .ok (clauses.mapM Parameter.ofClause?) := by
  induction clauses with
  | nil => rfl
  | cons clause clauses ih =>
    rw [tryParameters?, Parameter.tryOfClause?_eq, ih, List.mapM_cons]
    cases Parameter.ofClause? clause with
    | none => rfl
    | some p => cases clauses.mapM Parameter.ofClause? <;> rfl

def tryParse? (header : Text) : Except Misstep (Option FunctionHeader) := do
  let some lead ← tryLead? (strip header) | return none
  let some (name, rest) := takeName? lead.rest | return none
  let some ((genericParameters, clauseConstraints), rest) ← tryGenerics? (stripStart rest)
    | return none
  let some (inner, tail) ← tryBracketed? .paren rest | return none
  let some parameters ← tryParameters? (splitTopLevel inner) | return none
  let (returnType, whereConstraints) := splitTail tail
  return some {
    name, parameters, returnType, genericParameters
    visibility := lead.words.findSome? Visibility.ofWord?
    attributes := lead.attributes
    genericConstraints := (clauseConstraints ++ whereConstraints).filter fun c => !c.isEmpty }

theorem tryParse?_eq (header : Text) : tryParse? header = .ok (parse? header) := by
  unfold tryParse? parse?
  rw [tryLead?_eq (trimmed_strip header).1]
  cases takeLead? (strip header) with
  | none => rfl
  | some lead =>
    simp only [bind, Except.bind, Option.bind]
    cases takeName? lead.rest with
    | none => rfl
    | some named =>
      obtain ⟨name, rest⟩ := named
      simp only [tryGenerics?_eq]
      cases takeGenerics? (stripStart rest) with
      | none => rfl
      | some generics =>
        obtain ⟨clauses, rest⟩ := generics
        simp only [tryBracketed?_eq]
        cases takeBracketed? .paren rest with
        | none => rfl
        | some list =>
          obtain ⟨inner, tail⟩ := list
          simp only [tryParameters?_eq]
          cases (splitTopLevel inner).mapM Parameter.ofClause? with
          | none => rfl
          | some parameters => rfl

end FunctionHeader

end ViewCases
