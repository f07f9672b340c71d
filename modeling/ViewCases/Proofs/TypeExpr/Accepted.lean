import ViewCases.Proofs.TypeExpr.Function

/-! What a text that has a shape looks like. Each fact is read off the scans that chose
the shape, so it holds of every accepted text, also where brackets of different kinds
cross. -/
namespace ViewCases.TypeExpr
open Text ViewCases.Bracket

theorem shape_ok {s : Text} {sh : Shape} (h : shape s = .ok sh) :
    strip s ≠ [] ∧ Closed (marks s) ∧ shape (strip s) = .ok sh := by
  have ne : strip s ≠ [] := by
    intro empty
    simp [shape, empty] at h
  have notEmpty : (strip s).isEmpty = false := by simpa using ne
  have balanced : isBalanced (strip s) = true := by
    cases eq : isBalanced (strip s) with
    | true => rfl
    | false => simp [shape, ne, eq] at h
  have closed : Closed (marks (strip s)) := isBalanced_iff.mp balanced
  refine ⟨ne, by rwa [marks_strip] at closed, ?_⟩
  rw [shape_of_trimmed ne (trimmed_strip s) closed, ← h]
  simp only [shape, notEmpty, balanced]
  rfl

/-- The text that a trimmed text with this shape is made of. -/
inductive Outline (u : Text) : Shape → Prop
  | name : shape u = .ok (.name u) → Outline u (.name u)
  | optional (body : Text) : u = body ++ ['?'] → Free .arrow u → Outline u (.optional body)
  | group (inner : Text) : u = '(' :: inner ++ [')'] → (splitTopLevel inner).length = 1 →
      Outline u (.group inner)
  | application (base inner first : Text) (rest : List Text) :
      u = base ++ '<' :: inner ++ ['>'] → '<' ∉ base → strip base ≠ [] → Free .arrow u →
      inner.getLast? ≠ some '-' → splitTopLevel inner = first :: rest →
      Outline u (.application (strip base) first rest)
  | closure (before behind : Text) (sh : Shape) : u = before ++ '-' :: '>' :: behind →
      Closed (marks before) → Free .arrow before → closureShape u before.length = .ok sh →
      Outline u sh

theorem takeWhile_ne_not_mem {c : Char} (u : Text) : c ∉ u.takeWhile (· ≠ c) := by
  intro mem
  have := List.all_eq_true.mp (List.all_takeWhile (p := (· ≠ c)) (l := u)) c mem
  simp at this

theorem dropWhile_ne_of_mem {c : Char} {u : Text} (mem : c ∈ u) :
    ∃ r, u.dropWhile (· ≠ c) = c :: r ∧ u = u.takeWhile (· ≠ c) ++ c :: r := by
  obtain ⟨front, r, eq, absent⟩ := List.eq_append_cons_of_mem mem
  have cut := takeWhile_append_cons (p := (· ≠ c)) (c := c) (by simp)
    (fun d hd => by simpa using fun e : d = c => absent (e ▸ hd)) r
  rw [← eq] at cut
  exact ⟨r, cut.2, by rw [cut.1]; exact eq⟩

theorem outline_of_applicationShape {u : Text} {sh : Shape} (mem : u.contains '<' = true)
    (free : Free .arrow u) (shaped : shape u = .ok sh) (h : applicationShape u = .ok sh) :
    Outline u sh := by
  have angle : '<' ∈ u := List.contains_iff_mem.mp mem
  obtain ⟨r, tail, whole⟩ := dropWhile_ne_of_mem angle
  unfold applicationShape at h
  simp only [tail] at h
  split at h
  · cases h
  · next close partner =>
    split at h
    · cases h
      exact .name shaped
    · next last =>
      split at h
      · cases h
      · next named =>
        have final : close = r.length := by simpa using last
        rw [final] at partner
        obtain ⟨inner, rfl, noHyphen⟩ := partner?_eq_last (b := .angle) partner
        have text : (List.drop 1 ('<' :: (inner ++ [Bracket.angle.closer]))).dropLast = inner := by
          simp
        rw [text] at h
        split at h
        · cases h
        · cases h
        · next first rest parts =>
          cases h
          refine .application _ inner first rest ?_ (takeWhile_ne_not_mem u) ?_ free ?_
            (listParts_eq_ok parts).symm
          · simpa [closer] using whole
          · simpa using named
          · simpa using noHyphen

theorem outline_of_shape {u : Text} {sh : Shape} (trim : Trimmed u) (h : shape u = .ok sh) :
    Outline u sh := by
  obtain ⟨ne, closed, -⟩ := shape_ok h
  rw [strip_of_trimmed trim] at ne
  have opened := shape_of_trimmed ne trim closed
  -- For a text without parentheses around it, and for one where they hold more than one part.
  have named : ∀ {sh}, shape u = .ok sh → shape u =
      (if u.contains '<' then applicationShape u else .ok (.name u)) → Free .arrow u →
      Outline u sh := by
    intro sh h eq free
    have h' := h
    rw [eq] at h'
    split at h'
    · next angle => exact outline_of_applicationShape angle free h h'
    · cases h'
      exact .name h
  rcases findTopLevel_arrow_cases closed with ⟨found, free⟩ | ⟨a, r, eq, found, closedA, freeA, -⟩
  · rw [found] at opened
    simp only at opened
    split at opened
    · next mark =>
      rw [opened] at h
      cases h
      obtain ⟨body, rfl⟩ := List.getLast?_eq_some_iff.mp mark
      exact .optional _ (by simp) free
    · cases inside : insideParens? u with
      | none =>
        rw [inside] at opened
        exact named h opened free
      | some inner =>
        rw [inside] at opened
        simp only at opened
        split at opened
        · next one =>
          rw [opened] at h
          cases h
          have parens := insideParens?_eq_some inside
          rw [strip_of_trimmed trim] at parens
          exact .group inner parens one
        · exact named h opened free
  · rw [found] at opened
    exact .closure a r sh eq closedA freeA (opened.symm.trans h)

theorem takeAttribute_eq_ok {head mark rest : Text} (h : takeAttribute head = .ok (mark, rest)) :
    ∃ name, name ≠ [] ∧ (∀ c ∈ name, isWord c = true) ∧
      (mark = '@' :: name ∨ ∃ argument, name ∈ attributesWithArgument ∧
        mark = '@' :: name ++ '(' :: argument ++ [')'] ∧
        partner? .paren ('(' :: argument ++ ')' :: rest) = some (argument.length + 1)) := by
  unfold takeAttribute at h
  split at h
  · cases h
  · next name r named =>
    have ne := (Attribute.name?_eq_some named).1
    have chars : ∀ c ∈ name, isWord c = true := by
      unfold Attribute.name? at named
      split at named
      · split at named
        · cases named
        · cases named
          exact fun c hc => List.all_eq_true.mp List.all_takeWhile c hc
      · cases named
    refine ⟨name, ne, chars, ?_⟩
    split at h
    · next takes =>
      split at h
      · cases h
      · next close partner =>
        cases h
        right
        cases r with
        | nil => exact absurd takes.2 (by simp)
        | cons c cs =>
          obtain ⟨known, opens⟩ := takes
          cases Option.some.inj opens
          obtain ⟨argument, behind, eq, rfl, -⟩ := partner?_eq_some (b := .paren) partner
          subst eq
          refine ⟨argument, List.contains_iff_mem.mp known, ?_, ?_⟩
          · simp [List.take_append, List.take_of_length_le, closer]
          · rw [← partner]
            simp [List.drop_append, List.drop_of_length_le, closer]
    · cases h
      exact .inl rfl

theorem standing_of_takeAttribute {head mark rest : Text}
    (h : takeAttribute head = .ok (mark, rest)) : Standing mark := by
  obtain ⟨name, ne, chars, rfl | ⟨argument, mem, rfl, partner⟩⟩ := takeAttribute_eq_ok h
  · exact standing_word ne chars
  · apply standing_argument mem
    intro behind
    have split : ∀ r, '(' :: argument ++ ')' :: r = ('(' :: argument ++ [')']) ++ r := by simp
    rw [split] at partner ⊢
    exact partnerFrom_local partner (by simp) behind

theorem noHyphen_of_takeAttribute {head mark rest : Text}
    (h : takeAttribute head = .ok (mark, rest)) : mark.getLast? ≠ some '-' := by
  obtain ⟨name, ne, chars, rfl | ⟨argument, mem, rfl, -⟩⟩ := takeAttribute_eq_ok h
  · intro last
    rcases List.mem_cons.mp (List.mem_of_getLast? last) with at' | inside
    · exact absurd at' (by decide)
    · exact absurd (chars '-' inside) (by decide)
  · rw [List.getLast?_concat]
    decide

theorem marks_stripStart (t : Text) : marks (stripStart t) = marks t := by
  obtain ⟨l, blank, eq⟩ := stripStart_decompose t
  have whole := congrArg marks eq
  rw [marks_append (.inl (Blank.ne_hyphen_last blank)), marks_of_blank blank,
    List.nil_append] at whole
  exact whole.symm

theorem takeAttributes_eq_ok {head rest : Text} {ms : List Text}
    (h : takeAttributes head = .ok (ms, rest)) :
    (∀ m ∈ ms, Standing m) ∧ marks head = ms.flatMap marks ++ marks rest ∧
      ∃ front, head = front ++ rest := by
  fun_induction takeAttributes head generalizing ms rest with
  | case1 => cases h
  | case2 => cases h
  | case3 head at' mark r taken marks' r' later ih =>
    cases h
    obtain ⟨standing, eq, front, text⟩ := ih later
    obtain ⟨-, split⟩ := takeAttribute_eq_append taken
    obtain ⟨blanks, blank, lead⟩ := stripStart_decompose r
    refine ⟨?_, ?_, mark ++ blanks ++ front, ?_⟩
    · intro m hm
      rcases List.mem_cons.mp hm with rfl | hm
      · exact standing_of_takeAttribute taken
      · exact standing m hm
    · rw [split, marks_append (.inl (noHyphen_of_takeAttribute taken)), ← marks_stripStart r, eq]
      simp
    · rw [split, List.append_assoc, List.append_assoc, ← text, ← lead]
  | case4 head notAt =>
    cases h
    exact ⟨by simp, rfl, [], rfl⟩

theorem flatMap_marks_filter (ms : List Text) :
    (ms.filter (· ≠ escapingAttribute)).flatMap marks = ms.flatMap marks := by
  induction ms with
  | nil => rfl
  | cons m ms ih =>
    by_cases eq : m = escapingAttribute
    · subst eq
      have plain : marks escapingAttribute = [] := by rfl
      simpa [plain] using ih
    · simpa [eq] using ih

theorem marks_lead (ms : List Text) :
    marks (renderLead (ms.contains escapingAttribute) (ms.filter (· ≠ escapingAttribute))) =
      ms.flatMap marks := by
  have plain : marks escapingAttribute = [] := by rfl
  rw [renderLead_eq, marks_spaced, leadMarks, List.flatMap_append, flatMap_marks_filter]
  split
  · simp [plain]
  · rfl

theorem dropTrailingWord?_eq_some {word t rest : Text}
    (h : dropTrailingWord? word t = some rest) : ∃ b, Blank b ∧ t = rest ++ b ++ word := by
  unfold dropTrailingWord? at h
  split at h
  · cases h
  · next whole =>
    cases h
    have eq := congrArg List.reverse (eq_append_of_dropLead? whole)
    exact ⟨[], by simp [Blank], by simpa using eq⟩
  · next c r found =>
    split at h
    · cases h
    · cases h
      have eq := congrArg List.reverse (eq_append_of_dropLead? found)
      obtain ⟨b, blank, split⟩ := stripEnd_decompose (c :: r).reverse
      refine ⟨b, blank, ?_⟩
      rw [← split]
      simpa using eq

theorem splitEffects_eq (t : Text) :
    ∃ tail, (∀ c ∈ tail, isPlain c = true) ∧ t = (splitEffects t).1 ++ tail := by
  fun_induction splitEffects t with
  | case1 t => exact ⟨[], by simp, (List.append_nil t).symm⟩
  | case2 t word rest found before effects eq ih =>
    rw [eq] at ih
    obtain ⟨tail, plain, text⟩ := ih
    obtain ⟨v, mem, taken⟩ := List.exists_of_findSome?_eq_some found
    obtain ⟨r, drop, pair⟩ := Option.map_eq_some_iff.mp taken
    cases pair
    obtain ⟨b, blank, whole⟩ := dropTrailingWord?_eq_some drop
    refine ⟨tail ++ b ++ word, ?_, ?_⟩
    · intro c hc
      rcases List.mem_append.mp hc with hc | hc
      · rcases List.mem_append.mp hc with hc | hc
        · exact plain c hc
        · exact isPlain_of_isBlank (blank c hc)
      · exact effect_plain mem c (List.mem_cons_of_mem _ hc)
    · rw [whole, text]
      simp

theorem closureShape_eq_ok {before behind : Text} {sh : Shape}
    (h : closureShape (before ++ '-' :: '>' :: behind) before.length = .ok sh) :
    ∃ ms head effects core, takeAttributes (strip before) = .ok (ms, head) ∧
      splitEffects head = (core, effects) ∧ strip behind ≠ [] ∧
      sh = .closure (splitTopLevel ((insideParens? core).getD core)) (strip behind)
        (ms.contains escapingAttribute) (ms.filter (· ≠ escapingAttribute)) effects := by
  have left : (before ++ '-' :: '>' :: behind).take before.length = before := List.take_left
  have right : (before ++ '-' :: '>' :: behind).drop (before.length + 2) = behind := by
    simp [List.drop_append]
  unfold closureShape at h
  simp only [left, right] at h
  split at h
  · cases h
  · next result =>
    split at h
    · cases h
    · next ms head taken =>
      split at h
      · cases h
      · split at h
        · cases h
        · next parameters parts =>
          cases h
          refine ⟨ms, head, (splitEffects head).2, (splitEffects head).1, taken, rfl, ?_, ?_⟩
          · simpa using result
          · rw [← listParts_eq_ok parts]

end ViewCases.TypeExpr
