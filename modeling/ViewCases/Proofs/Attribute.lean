import ViewCases.Proofs.Bracket.Segments
import ViewCases.Attribute

/-! Attributes as they are written: an at sign, a word, and perhaps an argument whose
brackets are closed. What follows an attribute has to stop its word. -/
namespace ViewCases.Attribute
open Text ViewCases.Bracket

theorem name?_cut {t name rest : Text} (h : name? t = some (name, rest)) (n : Nat) :
    t.take (name.length + 1 + n) = '@' :: name ++ rest.take n ∧
      t.drop (name.length + 1 + n) = rest.drop n := by
  obtain ⟨-, rfl⟩ := name?_eq_some h
  have front : ('@' :: name ++ rest).take (('@' :: name).length + n) =
      '@' :: name ++ rest.take n := List.take_length_add_append n
  have behind : ('@' :: name ++ rest).drop (('@' :: name).length + n) = rest.drop n :=
    List.drop_length_add_append n
  exact ⟨front, behind⟩

theorem findMatching_argument {t name rest : Text} (h : name? t = some (name, rest))
    (argument : rest.head? = some '(') : findMatching t (name.length + 1) =
      .ok ((partner? .paren rest).map (name.length + 1 + ·)) := by
  obtain ⟨-, rfl⟩ := name?_eq_some h
  obtain ⟨cs, rfl⟩ := List.head?_eq_some_iff.mp argument
  exact findMatching_opener .paren ('@' :: name) cs

theorem name?_word {word : Text} (h : WordText word) {d : Char} (stop : isWord d = false)
    (rest : Text) : name? ('@' :: word ++ d :: rest) = some (word, d :: rest) := by
  have cut := takeWhile_append_cons stop h.chars rest
  rw [List.cons_append, name?, cut.1, cut.2, if_neg (by simpa using h.nonempty)]

/-- An attribute with a balanced argument or none. -/
inductive Written : Text → Prop
  | word (word : Text) : WordText word → Written ('@' :: word)
  | argument (word argument : Text) : WordText word → isBalanced argument = true →
      Written ('@' :: word ++ '(' :: argument ++ [')'])

theorem Written.head {mark : Text} (h : Written mark) : mark.head? = some '@' := by
  cases h <;> rfl

theorem take?_word {word : Text} (h : WordText word) {d : Char} (stop : isWord d = false)
    (paren : d ≠ '(') (rest : Text) :
    take? ('@' :: word ++ d :: rest) = some ('@' :: word, d :: rest) := by
  rw [take?, name?_word h stop]
  simp [takeArgument, paren]

theorem take?_argument {word argument rest : Text} (h : WordText word)
    (partner : partner? .paren ('(' :: argument ++ ')' :: rest) = some (argument.length + 1)) :
    take? ('@' :: word ++ '(' :: argument ++ [')'] ++ rest) =
      some ('@' :: word ++ '(' :: argument ++ [')'], rest) := by
  have text : '@' :: word ++ '(' :: argument ++ [')'] ++ rest =
      '@' :: word ++ '(' :: (argument ++ ')' :: rest) := by simp
  rw [List.cons_append] at partner
  rw [text, take?, name?_word h (by decide)]
  simp [takeArgument, partner, List.take_append, List.take_of_length_le, List.drop_append,
    List.drop_of_length_le]

theorem take?_written {mark : Text} (h : Written mark) {d : Char} (stop : isWord d = false)
    (paren : d ≠ '(') (rest : Text) : take? (mark ++ d :: rest) = some (mark, d :: rest) := by
  cases h with
  | word word h => exact take?_word h stop paren rest
  | argument word argument h balanced =>
    exact take?_argument h (partner?_wrap .paren (isBalanced_iff.mp balanced) (.inr (by simp)) _)

theorem Written.closed {mark : Text} (h : Written mark) : Closed (marks mark) := by
  have plain : ∀ {word : Text}, WordText word → ∀ c ∈ '@' :: word, isPlain c = true := by
    intro word h
    rw [List.forall_mem_cons]
    exact ⟨by decide, fun c hc => isPlain_of_isWord (h.chars c hc)⟩
  cases h with
  | word word h =>
    rw [marks_of_isPlain (plain h)]
    exact closed_nil
  | argument word argument h balanced =>
    have wrapped : marks ('(' :: argument ++ [')']) =
        .opens .paren :: marks argument ++ [.closes .paren] :=
      marks_wrap (b := .paren) (.inr (by simp))
    rw [List.append_assoc, marks_plain_append (plain h) (.inr (by simp)), wrapped]
    exact (isBalanced_iff.mp balanced).wrap .paren

theorem Written.misses {mark : Text} (h : Written mark) {x : Char} (other : x ∉ ("@()" : Text))
    (word : isWord x = false) (prev : Option Char) (t : Text) :
    Misses [x] prev .flat mark t := by
  have absent : ∀ {name : Text}, WordText name → x ∉ '@' :: name := by
    intro name h mem
    rcases List.mem_cons.mp mem with rfl | mem
    · exact other (by decide)
    · exact h.not_mem word mem
  cases h with
  | word name h => exact misses_of_not_mem (absent h) [] prev .flat t
  | argument name argument h balanced =>
    have plain : ∀ c ∈ '@' :: name, isPlain c = true := by
      rw [List.forall_mem_cons]
      exact ⟨by decide, fun c hc => isPlain_of_isWord (h.chars c hc)⟩
    rw [List.append_assoc]
    apply misses_append (e := .flat)
    · rw [marksFrom_of_isPlain plain]
      rfl
    · exact misses_of_not_mem (absent h) [] prev .flat _
    · exact misses_paren (fun mem => other (List.mem_cons_of_mem _ mem))
        (isBalanced_iff.mp balanced) _ t

theorem take?_head {t mark rest : Text} (h : take? t = some (mark, rest)) :
    t.head? = some '@' := by
  unfold take? at h
  split at h
  · cases h
  · next name rest' named =>
    rw [(name?_eq_some named).2]
    rfl

theorem takeAll_blank {gap : Text} (h : Blank gap) (t : Text) : takeAll (gap ++ t) = takeAll t := by
  rw [takeAll, takeAll, stripStart_append h]

theorem takeAll_of_take? {t mark rest : Text} (h : take? (stripStart t) = some (mark, rest)) :
    takeAll t = (mark :: (takeAll rest).1, (takeAll rest).2) := by
  conv_lhs => rw [takeAll]
  split
  · next none =>
    rw [h] at none
    cases none
  · next mark' rest' found =>
    rw [h] at found
    cases found
    rfl

theorem takeAll_of_none {t : Text} (h : take? (stripStart t) = none) :
    takeAll t = ([], stripStart t) := by
  rw [takeAll]
  split
  · rfl
  · next mark rest found =>
    rw [h] at found
    cases found

/-- White space behind an attribute belongs to nothing. -/
theorem takeAll_written {mark gap : Text} (h : Written mark) (blank : Blank gap) (ne : gap ≠ [])
    (t : Text) : takeAll (mark ++ (gap ++ t)) = (mark :: (takeAll t).1, (takeAll t).2) := by
  have taken : take? (stripStart (mark ++ (gap ++ t))) = some (mark, gap ++ t) := by
    rw [stripStart_of_head]
    · cases gap with
      | nil => exact absurd rfl ne
      | cons d ds =>
        have space := blank d List.mem_cons_self
        apply take?_written h (not_isWord_of_isBlank space)
        rintro rfl
        cases space
    · have ne : mark ≠ [] := by
        rintro rfl
        cases h.head
      rw [List.head?_append_of_ne_nil _ ne, h.head]
      rintro c ⟨⟩
      decide
  rw [takeAll_of_take? taken, takeAll_blank blank]

theorem takeAll_none {t : Text} (start : ∀ c, t.head? = some c → isBlank c = false)
    (noMark : t.head? ≠ some '@') : takeAll t = ([], t) := by
  have none : take? t = none := by
    apply Option.eq_none_iff_forall_ne_some.mpr
    exact fun found eq => noMark (take?_head eq)
  have still := stripStart_of_head start
  rw [takeAll_of_none (by rw [still, none]), still]

theorem takeAll_word {w : Text} (h : WordText w) (t : Text) :
    takeAll (w ++ t) = ([], w ++ t) := by
  obtain ⟨c, cs, rfl, hc⟩ := h.head_isWord
  apply takeAll_none
  · rintro d ⟨⟩
    exact not_isBlank_of_isWord hc
  · simpa using ne_of_isWord hc (show isWord '@' = false by decide)

end ViewCases.Attribute
