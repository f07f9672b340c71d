import ViewCases.Identifier
import ViewCases.Proofs.Text.Capital

/-! Case names. A name that begins with a letter is only rid of the characters that are no word
characters. A name that begins otherwise gets words in front, and its first letter is then
capitalised after those characters were replaced, so that the capital can bring a combining mark
into the case name. -/
namespace ViewCases.Identifier
open Text

/-- The form of a case name: a letter first, and word characters only. -/
structure Tag (t : Text) : Prop where
  start : ∃ c cs, t = c :: cs ∧ isLetter c = true
  chars : ∀ c ∈ t, isWord c = true

theorem isWord_of_mem_sanitize {t : Text} {c : Char} (h : c ∈ sanitize t) : isWord c = true := by
  obtain ⟨d, -, eq⟩ := List.mem_map.mp h
  by_cases word : isWord d = true
  · rw [if_pos word] at eq
    rwa [← eq]
  · rw [if_neg word] at eq
    rw [← eq]
    rfl

theorem sanitize_eq_iff {t : Text} : sanitize t = t ↔ ∀ c ∈ t, isWord c = true := by
  constructor
  · intro same c mem
    rw [← same] at mem
    exact isWord_of_mem_sanitize mem
  · intro words
    have kept : ∀ c ∈ t, (if isWord c then c else '_') = id c := fun c mem => if_pos (words c mem)
    rw [sanitize, List.map_congr_left kept, List.map_id]

theorem sanitize_letter {c : Char} (letter : isLetter c = true) (cs : Text) :
    sanitize (c :: cs) = c :: sanitize cs := by
  rw [sanitize, List.map_cons, if_pos (isWord_of_isLetter letter)]
  rfl

theorem digitRanges_numeral : ∀ r ∈ digitRanges, covers numeralRanges r.1 r.2 = true := by
  decide +kernel

theorem isWord_of_isDigit {c : Char} (h : isDigit c = true) : isWord c = true := by
  unfold isDigit at h
  unfold isWord
  split at h
  · next ascii => simp [if_pos ascii, h]
  · next other =>
    obtain ⟨r, mem, inside⟩ := List.any_eq_true.mp h
    obtain ⟨s, among, wider⟩ := List.any_eq_true.mp (digitRanges_numeral r mem)
    simp only [Bool.and_eq_true, decide_eq_true_eq, Nat.ble_eq] at inside wider
    have numeral : inRanges numeralRanges c = true := by
      refine List.any_eq_true.mpr ⟨s, among, ?_⟩
      simp only [Bool.and_eq_true, decide_eq_true_eq]
      omega
    rw [if_neg other, numeral, Bool.or_true]

theorem exists_leadWord (c : Char) : ∃ d ds, leadWord c = d :: ds ∧ isLetter d = true ∧
    d.toNat ∉ markedLetters ∧ ∀ e ∈ ds, isWord e = true := by
  unfold leadWord
  split
  · next digit =>
    refine ⟨'d', "igit" ++ [c], rfl, by decide, by decide, ?_⟩
    intro e mem
    have letters : ∀ e ∈ ("igit" : Text), isWord e = true := by decide
    rcases List.mem_append.mp mem with inside | last
    · exact letters e inside
    · rw [List.mem_singleton.mp last]
      exact isWord_of_isDigit digit
  · split
    · exact ⟨'u', "nderscore", rfl, by decide, by decide, by decide⟩
    · split
      · exact ⟨'d', "ollar", rfl, by decide, by decide, by decide⟩
      · exact ⟨'s', "ymbol", rfl, by decide, by decide, by decide⟩

theorem isWord_leadWord (c : Char) : ∀ e ∈ leadWord c, isWord e = true := by
  obtain ⟨d, ds, eq, letter, -, words⟩ := exists_leadWord c
  rw [eq]
  exact List.forall_mem_cons.mpr ⟨isWord_of_isLetter letter, words⟩

theorem isWord_capitalize_iff {c : Char} (letter : isLetter c = true) (cs : Text) :
    (∀ e ∈ capitalize (c :: cs), isWord e = true) ↔
      c.toNat ∉ markedLetters ∧ ∀ e ∈ cs, isWord e = true := by
  rw [capitalize, List.forall_mem_append, isWord_upperChar_iff letter]

theorem isWord_capitalize_leadWord (c : Char) :
    ∀ e ∈ capitalize (leadWord c), isWord e = true := by
  obtain ⟨d, ds, eq, letter, unmarked, words⟩ := exists_leadWord c
  rw [eq]
  exact (isWord_capitalize_iff letter ds).mpr ⟨unmarked, words⟩

theorem variantTag_letter {c : Char} (letter : isLetter c = true) (cs : Text) :
    variantTag (c :: cs) = sanitize (c :: cs) := by
  simp [variantTag, letter, sanitize_letter letter]

theorem variantTag_lead {x : Char} {xs rest : Text} (lead : ∀ c ∈ x :: xs, isLetter c = false)
    (start : ∀ c, rest.head? = some c → isLetter c = true) :
    variantTag (x :: xs ++ rest) =
      leadWord x ++ (xs.map leadWord).flatMap capitalize ++ capitalize (sanitize rest) := by
  have passes : ∀ c ∈ x :: xs, (!isLetter c) = true := by simpa using lead
  have none : rest.takeWhile (!isLetter ·) = [] ∧ rest.dropWhile (!isLetter ·) = rest := by
    cases rest with
    | nil => exact ⟨rfl, rfl⟩
    | cons c cs => simp [start c rfl]
  rw [variantTag, List.takeWhile_append_of_pos passes, List.dropWhile_append_of_pos passes,
    none.1, none.2, List.append_nil, List.map_cons]

inductive Beginning : Text → Prop
  | empty : Beginning []
  | letter (c : Char) (cs : Text) : isLetter c = true → Beginning (c :: cs)
  | other (x : Char) (xs rest : Text) : (∀ c ∈ x :: xs, isLetter c = false) →
      (∀ c, rest.head? = some c → isLetter c = true) → Beginning (x :: xs ++ rest)

theorem beginning (name : Text) : Beginning name := by
  have split := List.takeWhile_append_dropWhile (p := (!isLetter ·)) (l := name)
  have start : ∀ c, (name.dropWhile (!isLetter ·)).head? = some c → isLetter c = true := by
    intro c head
    have stop := List.head?_dropWhile_not (!isLetter ·) name
    rw [head] at stop
    simpa using stop
  have lead : ∀ c ∈ name.takeWhile (!isLetter ·), isLetter c = false := fun c mem => by
    simpa using List.all_eq_true.mp List.all_takeWhile c mem
  generalize name.dropWhile (!isLetter ·) = rest at *
  rw [← split]
  cases front : name.takeWhile (!isLetter ·) with
  | cons x xs => exact .other x xs rest (front ▸ lead) start
  | nil =>
    cases rest with
    | nil => exact .empty
    | cons c cs => exact .letter c cs (start c rfl)

theorem start_variantTag (name : Text) : ∃ c cs, variantTag name = c :: cs ∧ isLetter c = true := by
  cases beginning name with
  | empty => exact ⟨'u', _, rfl, by decide⟩
  | letter c cs letter =>
    rw [variantTag_letter letter, sanitize_letter letter]
    exact ⟨c, _, rfl, letter⟩
  | other x xs rest lead start =>
    obtain ⟨d, ds, word, letter, -⟩ := exists_leadWord x
    rw [variantTag_lead lead start, word]
    exact ⟨d, _, rfl, letter⟩

/-- The first letter of the name stands behind other characters and loses its mark as a
capital. -/
def LosesMark (name : Text) : Prop :=
  ∃ lead c cs, name = lead ++ c :: cs ∧ lead ≠ [] ∧ (∀ d ∈ lead, isLetter d = false) ∧
    isLetter c = true ∧ c.toNat ∈ markedLetters

theorem not_losesMark_letter {c : Char} (letter : isLetter c = true) (cs : Text) :
    ¬LosesMark (c :: cs) := by
  rintro ⟨lead, d, ds, eq, ne, others, -⟩
  cases lead with
  | nil => exact ne rfl
  | cons x xs =>
    cases eq
    rw [others c List.mem_cons_self] at letter
    cases letter

theorem losesMark_lead {x : Char} {xs : Text} (lead : ∀ c ∈ x :: xs, isLetter c = false)
    {c : Char} (letter : isLetter c = true) (cs : Text) :
    LosesMark (x :: xs ++ c :: cs) ↔ c.toNat ∈ markedLetters := by
  constructor
  · rintro ⟨lead', d, ds, eq, -, others, letter', marked⟩
    have cut : ∀ {front : Text} {e : Char} {es : Text}, (∀ y ∈ front, isLetter y = false) →
        isLetter e = true → (front ++ e :: es).find? isLetter = some e := by
      intro front e es none first
      rw [List.find?_append, List.find?_eq_none.mpr (by simpa using none), List.find?_cons, first]
      rfl
    have same := (cut lead letter).symm.trans ((congrArg _ eq).trans (cut others letter'))
    cases Option.some.inj same
    exact marked
  · exact fun marked => ⟨x :: xs, c, cs, rfl, by simp, lead, letter, marked⟩

theorem isWord_variantTag_iff (name : Text) :
    (∀ e ∈ variantTag name, isWord e = true) ↔ ¬LosesMark name := by
  cases beginning name with
  | empty =>
    refine iff_of_true (by decide) ?_
    rintro ⟨lead, c, cs, eq, -⟩
    simp at eq
  | letter c cs letter =>
    rw [variantTag_letter letter]
    exact iff_of_true (fun e mem => isWord_of_mem_sanitize mem) (not_losesMark_letter letter cs)
  | other x xs rest lead start =>
    have words : ∀ e ∈ leadWord x ++ (xs.map leadWord).flatMap capitalize, isWord e = true := by
      refine List.forall_mem_append.mpr ⟨isWord_leadWord x, fun e mem => ?_⟩
      obtain ⟨w, inside, mem⟩ := List.mem_flatMap.mp mem
      obtain ⟨c, -, rfl⟩ := List.mem_map.mp inside
      exact isWord_capitalize_leadWord c e mem
    rw [variantTag_lead lead start, List.forall_mem_append, and_iff_right words]
    cases rest with
    | nil =>
      refine iff_of_true (by simp [sanitize, capitalize]) ?_
      rintro ⟨lead', c, cs, eq, -, -, letter, -⟩
      rw [List.append_nil] at eq
      rw [lead c (eq ▸ List.mem_append_right lead' List.mem_cons_self)] at letter
      cases letter
    | cons c cs =>
      have letter := start c rfl
      rw [sanitize_letter letter, isWord_capitalize_iff letter, losesMark_lead lead letter]
      exact and_iff_left fun e mem => isWord_of_mem_sanitize mem

theorem tag_variantTag_iff (name : Text) : Tag (variantTag name) ↔ ¬LosesMark name := by
  rw [← isWord_variantTag_iff]
  exact ⟨Tag.chars, fun words => ⟨start_variantTag name, words⟩⟩

/-- The case name of a case name is rid of combining marks. -/
theorem variantTag_variantTag (name : Text) :
    variantTag (variantTag name) = sanitize (variantTag name) := by
  obtain ⟨c, cs, eq, letter⟩ := start_variantTag name
  rw [eq, variantTag_letter letter]

theorem Tag.variantTag_eq {t : Text} (h : Tag t) : variantTag t = t := by
  obtain ⟨c, cs, rfl, letter⟩ := h.start
  rw [variantTag_letter letter]
  exact sanitize_eq_iff.mpr h.chars

theorem tag_of_variantTag_eq {t : Text} (same : variantTag t = t) : Tag t := by
  have start := start_variantTag t
  rw [same] at start
  obtain ⟨c, cs, rfl, letter⟩ := start
  rw [variantTag_letter letter] at same
  exact ⟨⟨c, cs, rfl, letter⟩, sanitize_eq_iff.mp same⟩

theorem isValidTypeName_iff {t : Text} (start : ∃ c cs, t = c :: cs ∧ isLetter c = true) :
    isValidTypeName t = true ↔ ∀ c ∈ t, isWord c = true := by
  obtain ⟨c, cs, rfl, letter⟩ := start
  rw [isValidTypeName, letter, Bool.true_or, Bool.true_and, List.all_eq_true]

/-- Every name has a case name that begins with a letter. It consists of word characters, can
name a type and is its own case name exactly if the name does not lose a mark; and the names that
are their own case names are those of that form. The case name of a case name is always one. -/
theorem variantTag_retraction (name : Text) :
    (∃ c cs, variantTag name = c :: cs ∧ isLetter c = true) ∧
    (Tag (variantTag name) ↔ ¬LosesMark name) ∧
    (isValidTypeName (variantTag name) = true ↔ ¬LosesMark name) ∧
    (variantTag (variantTag name) = variantTag name ↔ ¬LosesMark name) ∧
    (variantTag name = name ↔ Tag name) ∧
    Tag (variantTag (variantTag name)) := by
  have start := start_variantTag name
  refine ⟨start, tag_variantTag_iff name, ?_, ?_, ⟨tag_of_variantTag_eq, Tag.variantTag_eq⟩, ?_⟩
  · rw [isValidTypeName_iff start, isWord_variantTag_iff]
  · rw [variantTag_variantTag, sanitize_eq_iff, isWord_variantTag_iff]
  · refine ⟨start_variantTag _, ?_⟩
    rw [variantTag_variantTag]
    exact fun e mem => isWord_of_mem_sanitize mem

theorem variantTag_marked :
    let name : Text := ['_', Char.ofNat 0x1F0]
    let tag : Text := "underscoreJ" ++ [Char.ofNat 0x30C]
    variantTag name = tag ∧ isValidTypeName tag = false ∧ variantTag tag = "underscoreJ_" := by
  decide +kernel

end ViewCases.Identifier
