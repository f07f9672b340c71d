import ViewCases.Proofs.Bracket.Segments
import ViewCases.Signature.Header

/-! What stands behind the parameters: the return type and the constraints. The constraints
begin at the first whole word `where`, wherever the brackets are, so a return type must not
have that word. It need not be balanced. -/
namespace ViewCases.FunctionHeader
open Text ViewCases.Bracket

/-- The text has `word` with no word character at either side. -/
def HasWord (word t : Text) : Prop :=
  ∃ a b, t = a ++ word ++ b ∧ a.getLast?.any isWord = false ∧ b.head?.any isWord = false

/-- Each `word` in the text touches a word character. `prev` stands before the text. -/
def WordFree (word : Text) (prev : Option Char) (t : Text) : Prop :=
  ∀ a b, t = a ++ word ++ b → (lastOf prev a).any isWord = true ∨ b.head?.any isWord = true

theorem wordFree_of_not_hasWord {word t : Text} (h : ¬HasWord word t) {prev : Option Char}
    (start : prev.any isWord = false) : WordFree word prev t := by
  intro a b eq
  have before : (lastOf prev a).any isWord = a.getLast?.any isWord := by
    cases a with
    | nil => simpa [lastOf] using start
    | cons c cs => rw [lastOf, lastOf_some]
  rw [before]
  cases first : a.getLast?.any isWord with
  | true => exact .inl rfl
  | false =>
    cases last : b.head?.any isWord with
    | true => exact .inr rfl
    | false => exact absurd ⟨a, b, eq, first, last⟩ h

theorem wordFree_append {word a t : Text} (word_ok : WordText word) {prev : Option Char}
    (separators : ∀ c ∈ a, isWord c = false) (h : WordFree word (lastOf prev a) t) :
    WordFree word prev (a ++ t) := by
  intro u b eq
  rw [List.append_assoc] at eq
  rcases List.append_eq_append_iff.mp eq with ⟨v, rfl, rest⟩ | ⟨v, left, rest⟩
  · rw [lastOf_append]
    exact h v b (by rw [rest, List.append_assoc])
  · cases v with
    | nil =>
      rw [List.append_nil] at left
      subst left
      exact h [] b (by simpa using rest.symm)
    | cons c v =>
      exfalso
      obtain ⟨d, ds, rfl, hd⟩ := word_ok.head_isWord
      have same : d = c := (List.cons.inj rest).1
      have := separators d (by rw [left, same]; exact List.mem_append_right _ List.mem_cons_self)
      rw [hd] at this
      cases this

theorem splitAtWord?_cons {word : Text} {prev : Option Char} {c : Char} {cs : Text}
    (h : ∀ rest, c :: cs = word ++ rest →
      (prev.any isWord || rest.head?.any isWord) = true) :
    splitAtWord? word prev (c :: cs) =
      (splitAtWord? word (some c) cs).map fun (before, behind) => (c :: before, behind) := by
  rw [splitAtWord?]
  cases found : dropLead? word (c :: cs) with
  | none => rfl
  | some rest => simp only [h rest (eq_append_of_dropLead? found), if_true]

theorem splitAtWord?_append {word a t : Text} (word_ok : WordText word)
    (stop : t.head?.any isWord = false) {prev : Option Char} (h : WordFree word prev a) :
    splitAtWord? word prev (a ++ t) =
      (splitAtWord? word (lastOf prev a) t).map fun (before, behind) => (a ++ before, behind) := by
  induction a generalizing prev with
  | nil =>
    rw [List.nil_append, lastOf]
    cases splitAtWord? word prev t <;> rfl
  | cons c cs ih =>
    have later : WordFree word (some c) cs := fun u b eq => h (c :: u) b (by rw [eq]; rfl)
    have here : ∀ rest, c :: (cs ++ t) = word ++ rest →
        (prev.any isWord || rest.head?.any isWord) = true := by
      intro rest eq
      rw [← List.cons_append] at eq
      rw [Bool.or_eq_true]
      rcases List.append_eq_append_iff.mp eq with ⟨v, left, right⟩ | ⟨v, left, rfl⟩
      · cases v with
        | nil =>
          rw [List.append_nil] at left
          have := h [] [] (by simp [left])
          exact .inl (by simpa [lastOf] using this)
        | cons d v =>
          have word_char := word_ok.chars d (left ▸ List.mem_append_right _ List.mem_cons_self)
          rw [right] at stop
          simp [word_char] at stop
      · rcases h [] v left with first | second
        · exact .inl first
        · cases v with
          | nil => simp at second
          | cons d v => exact .inr second
    rw [List.cons_append, splitAtWord?_cons here, ih later, lastOf]
    cases splitAtWord? word (lastOf (some c) cs) t <;> rfl

theorem splitAtWord?_none {word a : Text} (word_ok : WordText word) {prev : Option Char}
    (h : WordFree word prev a) : splitAtWord? word prev a = none := by
  have := splitAtWord?_append (t := []) word_ok rfl h
  rw [List.append_nil] at this
  rw [this]
  rfl

theorem splitAtWord?_word {word : Text} (ne : word ≠ []) {prev : Option Char} {t : Text}
    (start : prev.any isWord = false) (stop : t.head?.any isWord = false) :
    splitAtWord? word prev (word ++ t) = some ([], t) := by
  cases word with
  | nil => exact absurd rfl ne
  | cons c cs =>
    have found := dropLead?_append (c :: cs) t
    rw [List.cons_append] at found ⊢
    rw [splitAtWord?, found]
    simp [start, stop]

theorem splitAtWord?_ne_none {word a b : Text} (ne : word ≠ []) {prev : Option Char}
    (start : (lastOf prev a).any isWord = false) (stop : b.head?.any isWord = false) :
    splitAtWord? word prev (a ++ word ++ b) ≠ none := by
  induction a generalizing prev with
  | nil =>
    have found : splitAtWord? word prev (word ++ b) = some ([], b) :=
      splitAtWord?_word ne start stop
    rw [List.nil_append, found]
    exact Option.some_ne_none _
  | cons c cs ih =>
    rw [List.cons_append, List.cons_append, splitAtWord?]
    split
    · exact Option.some_ne_none _
    · simpa using ih start

theorem not_hasWord {word t : Text} (ne : word ≠ []) (h : splitAtWord? word none t = none) :
    ¬HasWord word t := by
  rintro ⟨a, b, rfl, start, stop⟩
  exact splitAtWord?_ne_none ne (by rwa [lastOf_none]) stop h

def writeResult : Option Text → Text
  | none => []
  | some result => " -> " ++ result

def writeConstraints (constraints : List Text) : Text :=
  if constraints.isEmpty then [] else " where " ++ joinWith ", " constraints

theorem wordText_where : WordText "where" := by decide

theorem wordFree_writeResult {result : Option Text}
    (h : ∀ r, result = some r → ¬HasWord "where" r) :
    WordFree "where" none (writeResult result) := by
  cases result with
  | none =>
    intro a b eq
    simp [writeResult] at eq
  | some r =>
    have space : (lastOf none (" -> " : Text)).any isWord = false := by decide
    exact wordFree_append wordText_where (by decide) (wordFree_of_not_hasWord (h r rfl) space)

theorem splitTail_result {result : Option Text} (trim : ∀ r, result = some r → Trimmed r)
    {gap : Text} (blank : Blank gap) (constraints : List Text) :
    (match findTopLevel ['-', '>'] (writeResult result ++ gap) with
      | some arrow => (strip ((writeResult result ++ gap).drop (arrow + 2)), constraints)
      | none => ("Void", constraints)) = (result.getD "Void", constraints) := by
  cases result with
  | none =>
    have closed : Closed (marks gap) := by
      rw [marks_of_blank blank]
      exact closed_nil
    have free : Free .arrow gap := by
      rw [Free, marks_of_blank blank]
      exact List.not_mem_nil
    have none : findTopLevel ['-', '>'] (writeResult none ++ gap) = none :=
      findTopLevel_arrow_none closed free
    rw [none]
    rfl
  | some r =>
    have closed : Closed (marks ([' '] : Text)) := closed_nil
    have free : Free .arrow ([' '] : Text) := List.not_mem_nil
    have text : writeResult (some r) ++ gap = [' '] ++ '-' :: '>' :: (' ' :: r ++ gap) := rfl
    have found := findTopLevel_arrow closed free (' ' :: r ++ gap)
    have behind : ([' '] ++ '-' :: '>' :: (' ' :: r ++ gap)).drop 3 = [' '] ++ r ++ gap := rfl
    rw [text, found]
    exact congrArg (·, constraints) (behind ▸ strip_surround blank_space (trim r rfl) blank)

theorem splitTail_write {result : Option Text} {constraints : List Text}
    (trim : ∀ r, result = some r → Trimmed r) (free : ∀ r, result = some r → ¬HasWord "where" r)
    (atoms : ∀ c ∈ constraints, Atom c) :
    splitTail (writeResult result ++ writeConstraints constraints) =
      (result.getD "Void", constraints) := by
  have wordFree := wordFree_writeResult free
  cases constraints with
  | nil =>
    have none : Blank [] := by simp [Blank]
    have read := splitTail_result trim none []
    rw [List.append_nil] at read
    rw [writeConstraints, List.isEmpty_nil, if_pos rfl, List.append_nil, splitTail,
      splitAtWord?_none wordText_where wordFree]
    exact read
  | cons c rest =>
    have segs : ∀ u ∈ c :: rest, Segment u := fun u hu => atom_iff_segment.mp (atoms u hu)
    have list := splitTopLevel_space_join segs
    have text : writeConstraints (c :: rest) =
        ' ' :: (("where" : Text) ++ ' ' :: joinWith [',', ' '] (c :: rest)) := rfl
    have word : splitAtWord? "where" (some ' ')
        (("where" : Text) ++ ' ' :: joinWith [',', ' '] (c :: rest)) =
          some ([], ' ' :: joinWith [',', ' '] (c :: rest)) :=
      splitAtWord?_word (by decide) rfl rfl
    have found : splitAtWord? "where" none (writeResult result ++ writeConstraints (c :: rest)) =
        some (writeResult result ++ [' '], ' ' :: joinWith [',', ' '] (c :: rest)) := by
      rw [text, splitAtWord?_append wordText_where rfl wordFree,
        splitAtWord?_cons (by intro rest eq; simp at eq), word]
      rfl
    rw [splitTail, found]
    simp only [list]
    exact splitTail_result trim blank_space _

end ViewCases.FunctionHeader
