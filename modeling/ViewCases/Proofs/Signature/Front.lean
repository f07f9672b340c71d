import ViewCases.Proofs.Bracket.Scans
import ViewCases.Proofs.Signature.Lead

/-! A header up to the end of its parameter list. Every scan of this part stops inside it,
so text behind it changes nothing but the return type and the constraints. -/
namespace ViewCases.FunctionHeader
open Text Signature ViewCases.Bracket

/-- What stands before the result: all of a header but its return type and its `where`
clause. -/
structure Front where
  attributes : List Text
  words : List Text
  name : Text
  genericParameters : List Text
  clauseConstraints : List Text
  parameters : List Parameter
  deriving DecidableEq, Repr

def Front.header (f : Front) (tail : Text) : FunctionHeader where
  name := f.name
  visibility := f.words.findSome? Visibility.ofWord?
  parameters := f.parameters
  returnType := (splitTail tail).1
  attributes := f.attributes
  genericParameters := f.genericParameters
  genericConstraints := (f.clauseConstraints ++ (splitTail tail).2).filter fun c => !c.isEmpty

/-- What stands before the parameter list. -/
structure Opening where
  attributes : List Text
  words : List Text
  name : Text
  generics : List Text × List Text
  deriving DecidableEq, Repr

def opening? (header : Text) : Option (Opening × Text) := do
  let lead ← takeLead? header
  let (name, rest) ← takeName? lead.rest
  let (generics, rest) ← takeGenerics? (stripStart rest)
  return (⟨lead.attributes, lead.words, name, generics⟩, rest)

def Opening.front (o : Opening) (parameters : List Parameter) : Front :=
  ⟨o.attributes, o.words, o.name, o.generics.1, o.generics.2, parameters⟩

def front? (header : Text) : Option (Front × Text) := do
  let lead ← takeLead? header
  let (name, rest) ← takeName? lead.rest
  let (generics, rest) ← takeGenerics? (stripStart rest)
  let (inner, tail) ← takeBracketed? .paren rest
  let parameters ← (splitTopLevel inner).mapM Parameter.ofClause?
  return (⟨lead.attributes, lead.words, name, generics.1, generics.2, parameters⟩, tail)

theorem parse?_eq_front? (header : Text) :
    parse? header = (front? (strip header)).map fun (f, tail) => f.header tail := by
  simp only [parse?, front?, Option.bind_eq_bind, Option.map_eq_bind, Option.bind_assoc,
    Option.bind_some, Option.pure_def, Function.comp_apply]
  rfl

theorem front?_eq_opening? (header : Text) :
    front? header = (opening? header).bind fun (o, rest) =>
      (takeBracketed? .paren rest).bind fun (inner, tail) =>
        ((splitTopLevel inner).mapM Parameter.ofClause?).map fun ps => (o.front ps, tail) := by
  simp only [front?, opening?, Option.bind_eq_bind, Option.map_eq_bind, Option.bind_assoc,
    Option.bind_some, Option.pure_def]
  rfl

/-- What the scan finds does not depend on what stands behind the text, unless it takes
all of it. -/
def Local {α : Type} (scan : Text → Option (α × Text)) : Prop :=
  ∀ t a rest, scan t = some (a, rest) → rest ≠ [] → ∀ x, scan (t ++ x) = some (a, rest ++ x)

theorem run_append {p : Char → Bool} {t : Text} (ne : t.dropWhile p ≠ []) (x : Text) :
    (t ++ x).takeWhile p = t.takeWhile p ∧ (t ++ x).dropWhile p = t.dropWhile p ++ x := by
  induction t with
  | nil => exact absurd rfl ne
  | cons c cs ih =>
    by_cases hc : p c = true
    · have later : cs.dropWhile p ≠ [] := by simpa [hc] using ne
      obtain ⟨taken, left⟩ := ih later
      simp [hc, taken, left]
    · simp [hc]

theorem stripStart_append_of_ne {t : Text} (ne : stripStart t ≠ []) (x : Text) :
    stripStart (t ++ x) = stripStart t ++ x := (run_append ne x).2

theorem dropWhile_ne_of_stripStart {p : Char → Bool} {t : Text}
    (ne : stripStart (t.dropWhile p) ≠ []) : t.dropWhile p ≠ [] := by
  intro empty
  rw [empty] at ne
  exact ne rfl

theorem partner?_append {b : Bracket} {t : Text} {i : Nat} (h : b.partner? t = some i)
    (x : Text) : b.partner? (t ++ x) = some i := by
  have inside := (partnerFrom_lt h).2
  refine partnerFrom_local (t := []) ?_ inside x
  rwa [List.append_nil]

theorem head?_append {t : Text} (ne : t ≠ []) (x : Text) : (t ++ x).head? = t.head? :=
  List.head?_append_of_ne_nil t ne

/-- A bracketed text ends at its own bracket, so it may also be all there is. -/
theorem takeBracketed?_append {b : Bracket} {t inner rest : Text}
    (h : takeBracketed? b t = some (inner, rest)) (x : Text) :
    takeBracketed? b (t ++ x) = some (inner, rest ++ x) := by
  unfold takeBracketed? at h ⊢
  have ne : t ≠ [] := by
    rintro rfl
    cases b <;> cases h
  rw [head?_append ne]
  split at h
  · next opens =>
    obtain ⟨close, partner, eq⟩ := Option.map_eq_some_iff.mp h
    cases eq
    have within : close + 1 ≤ t.length := by
      have := (partnerFrom_lt partner).2
      omega
    rw [if_pos opens, partner?_append partner, Option.map_some,
      List.take_append_of_le_length (by omega), List.drop_append_of_le_length within]
  · cases h

theorem takeBacktick_append_of_ne {t : Text} (ne : t ≠ []) (x : Text) :
    takeBacktick (t ++ x) = ((takeBacktick t).1, (takeBacktick t).2 ++ x) := by
  cases t with
  | nil => exact absurd rfl ne
  | cons c cs =>
    by_cases tick : c = '`'
    · subst tick
      rfl
    · simp [takeBacktick, tick]

theorem takeName?_local : Local takeName? := by
  intro t name rest h ne x
  have inhabited : t ≠ [] := by
    rintro rfl
    cases h
  unfold takeName? at h ⊢
  rw [takeBacktick_append_of_ne inhabited]
  cases behind : (takeBacktick t).2 with
  | nil =>
    rw [behind] at h
    cases h
  | cons c cs =>
    rw [behind] at h
    simp only [List.cons_append] at h ⊢
    split at h
    · next start =>
      cases h
      have later : cs.dropWhile isNamePart ≠ [] := by
        intro empty
        rw [empty] at ne
        exact ne rfl
      obtain ⟨taken, left⟩ := run_append later x
      rw [if_pos start, taken, left, takeBacktick_append_of_ne later]
    · cases h

theorem takeGenerics?_local : Local takeGenerics? := by
  intro t clauses rest h ne x
  unfold takeGenerics? at h ⊢
  by_cases opens : t.head? = some '<'
  · have inhabited : t ≠ [] := by
      rintro rfl
      cases opens
    rw [if_pos opens] at h
    rw [head?_append inhabited, if_pos opens]
    obtain ⟨⟨inner, behind⟩, taken, eq⟩ := Option.map_eq_some_iff.mp h
    cases eq
    rw [takeBracketed?_append taken x]
    simp only [Option.map_some, stripStart_append_of_ne ne]
  · rw [if_neg opens] at h
    cases h
    rw [head?_append ne, if_neg opens]

theorem name?_local : Local Attribute.name? := by
  intro t name rest h ne x
  cases t with
  | nil => cases h
  | cons c cs =>
    by_cases at_sign : c = '@'
    · subst at_sign
      simp only [Attribute.name?, List.cons_append] at h ⊢
      split at h
      · cases h
      · next word =>
        cases h
        obtain ⟨taken, left⟩ := run_append ne x
        rw [taken, left, if_neg word]
    · simp [Attribute.name?, at_sign] at h

theorem takeArgument_append_of_ne {t : Text} (ne : (Attribute.takeArgument t).2 ≠ [])
    (x : Text) : Attribute.takeArgument (t ++ x) =
      ((Attribute.takeArgument t).1, (Attribute.takeArgument t).2 ++ x) := by
  have inhabited : t ≠ [] := by
    rintro rfl
    exact ne rfl
  unfold Attribute.takeArgument at ne ⊢
  rw [head?_append inhabited]
  by_cases opens : t.head? = some '('
  · simp only [opens, if_true] at ne ⊢
    cases partner : partner? .paren t with
    | none => simp [partner] at ne
    | some close =>
      have within : close + 1 ≤ t.length := by
        have := (partnerFrom_lt partner).2
        omega
      simp only [partner?_append partner, List.take_append_of_le_length within,
        List.drop_append_of_le_length within]
  · simp only [opens, if_false]

theorem take?_local : Local Attribute.take? := by
  intro t mark rest h ne x
  unfold Attribute.take? at h ⊢
  cases named : Attribute.name? t with
  | none =>
    rw [named] at h
    cases h
  | some found =>
    obtain ⟨name, behind⟩ := found
    rw [named] at h
    cases h
    have later : behind ≠ [] := by
      rintro rfl
      exact ne rfl
    simp only [name?_local t name behind named later x, takeArgument_append_of_ne ne]

theorem take?_none_append {cs : Text} (ne : cs ≠ []) (h : Attribute.take? ('@' :: cs) = none)
    (x : Text) : Attribute.take? ('@' :: (cs ++ x)) = none := by
  cases cs with
  | nil => exact absurd rfl ne
  | cons c cs =>
    have noWord : isWord c = false := by
      by_cases word : isWord c = true
      · simp [Attribute.take?, Attribute.name?, word] at h
      · simpa using word
    simp [Attribute.take?, Attribute.name?, noWord]

theorem stripStart_ne_of_takeLead? {t : Text} {lead : Lead}
    (h : takeLead? (stripStart t) = some lead) : stripStart t ≠ [] := by
  intro empty
  rw [empty, takeLead?] at h
  cases h

theorem takeLead?_append {t : Text} {lead : Lead} (h : takeLead? t = some lead)
    (ne : lead.rest ≠ []) (x : Text) :
    takeLead? (t ++ x) = some { lead with rest := lead.rest ++ x } := by
  induction len : t.length using Nat.strongRecOn generalizing t lead with
  | _ n ih =>
    subst len
    -- What the scan goes on with is shorter, and stays when `x` is behind it.
    have onward : ∀ {u : Text} {l : Lead}, (stripStart u).length < t.length →
        takeLead? (stripStart u) = some l → l.rest ≠ [] →
        takeLead? (stripStart (u ++ x)) = some { l with rest := l.rest ++ x } := by
      intro u l shorter found behind
      rw [stripStart_append_of_ne (stripStart_ne_of_takeLead? found)]
      exact ih _ shorter found behind rfl
    cases t with
    | nil =>
      rw [takeLead?] at h
      cases h
    | cons c cs =>
      rw [List.cons_append]
      by_cases mark : c = '@'
      · subst mark
        cases found : Attribute.take? ('@' :: cs) with
        | none =>
          rw [takeLead?_noMark found] at h
          have inhabited : cs ≠ [] := by
            rintro rfl
            exact stripStart_ne_of_takeLead? h rfl
          rw [takeLead?_noMark (take?_none_append inhabited found x)]
          have := length_stripStart_le cs
          exact onward (by simp; omega) h ne
        | some pair =>
          obtain ⟨mark, rest⟩ := pair
          rw [takeLead?_mark found] at h
          obtain ⟨l, later, rfl⟩ := Option.map_eq_some_iff.mp h
          have inhabited : rest ≠ [] := by
            rintro rfl
            exact stripStart_ne_of_takeLead? later rfl
          obtain ⟨nonempty, whole⟩ := Attribute.take?_eq_some found
          have shorter : (stripStart rest).length < ('@' :: cs).length := by
            have := length_stripStart_le rest
            have := List.length_pos_iff.mpr nonempty
            rw [whole, List.length_append]
            omega
          have longer : Attribute.take? ('@' :: (cs ++ x)) = some (mark, rest ++ x) :=
            take?_local ('@' :: cs) mark rest found inhabited x
          rw [takeLead?_mark longer, onward shorter later ne]
          rfl
      · rw [takeLead?_word mark] at h ⊢
        have := length_stripStart_le (cs.dropWhile isLeadWord)
        have := length_dropWhile_le isLeadWord cs
        have shorter : (stripStart (cs.dropWhile isLeadWord)).length < (c :: cs).length := by
          simp only [List.length_cons]
          omega
        -- In either case something stands behind the word.
        have inhabited : stripStart (cs.dropWhile isLeadWord) ≠ [] := by
          simp only at h
          split at h
          · cases h
            exact ne
          · obtain ⟨l, later, -⟩ := Option.map_eq_some_iff.mp h
            exact stripStart_ne_of_takeLead? later
        obtain ⟨taken, left⟩ := run_append (dropWhile_ne_of_stripStart inhabited) x
        simp only [taken, left] at h ⊢
        split at h
        · next isFunc =>
          cases h
          rw [if_pos isFunc, stripStart_append_of_ne inhabited]
        · next noFunc =>
          obtain ⟨l, later, rfl⟩ := Option.map_eq_some_iff.mp h
          rw [if_neg noFunc, onward shorter later ne]
          rfl

theorem ne_nil_of_takeBracketed? {b : Bracket} {t inner rest : Text}
    (h : takeBracketed? b t = some (inner, rest)) : t ≠ [] := by
  rintro rfl
  cases b <;> cases h

theorem opening?_local : Local opening? := by
  intro header o list h listed x
  unfold opening? at h ⊢
  simp only [Option.bind_eq_bind, Option.bind_eq_some_iff] at h
  obtain ⟨lead, hlead, ⟨name, behind⟩, hname, ⟨generics, rest⟩, hgenerics, eq⟩ := h
  cases eq
  have generic : stripStart behind ≠ [] := by
    intro empty
    rw [empty] at hgenerics
    cases hgenerics
    exact listed rfl
  have named : behind ≠ [] := by
    rintro rfl
    exact generic rfl
  have led : lead.rest ≠ [] := by
    intro empty
    rw [empty] at hname
    cases hname
  rw [takeLead?_append hlead led x]
  simp only [Option.bind_eq_bind, Option.bind_some, takeName?_local _ _ _ hname named x,
    stripStart_append_of_ne generic, takeGenerics?_local _ _ _ hgenerics listed x]
  rfl

theorem front?_of_opening {t list : Text} {o : Opening} (opening : opening? t = some (o, list))
    (ne : list ≠ []) (x : Text) : front? (t ++ x) =
      (takeBracketed? .paren (list ++ x)).bind fun (inner, tail) =>
        ((splitTopLevel inner).mapM Parameter.ofClause?).map fun ps => (o.front ps, tail) := by
  rw [front?_eq_opening?, opening?_local _ _ _ opening ne]
  rfl

theorem front?_append {header tail : Text} {f : Front} (h : front? header = some (f, tail))
    (x : Text) : front? (header ++ x) = some (f, tail ++ x) := by
  rw [front?_eq_opening?] at h
  obtain ⟨⟨o, list⟩, opens, h⟩ := Option.bind_eq_some_iff.mp h
  obtain ⟨⟨inner, rest⟩, closes, h⟩ := Option.bind_eq_some_iff.mp h
  obtain ⟨parameters, read, eq⟩ := Option.map_eq_some_iff.mp h
  cases eq
  rw [front?_of_opening opens (ne_nil_of_takeBracketed? closes), takeBracketed?_append closes x]
  simp only [Option.bind_some, read, Option.map_some]

theorem front?_ne_nil {header tail : Text} {f : Front} (h : front? header = some (f, tail)) :
    header ≠ [] := by
  rintro rfl
  simp [front?, takeLead?] at h

/-- What is written behind a header that can be read changes the end of it only. -/
theorem parse?_append {header tail : Text} {f : Front} (trimmed : Trimmed header)
    (h : front? header = some (f, tail)) (x : Text) :
    parse? (strip (header ++ x)) = some (f.header (tail ++ stripEnd x)) := by
  rw [parse?_eq_front?, strip_of_trimmed (trimmed_strip _),
    strip_append_trimmed trimmed (front?_ne_nil h), front?_append h]
  rfl

end ViewCases.FunctionHeader
