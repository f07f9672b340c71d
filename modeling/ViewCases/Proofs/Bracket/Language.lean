import ViewCases.Proofs.Bracket.Scans

/-! The language of balanced texts. Each kind of bracket spells a word of its own, and a text is
balanced exactly when a grammar makes all these words. The words of two texts meet without a new
arrow where the second text is balanced, so balance passes to joins, fronts and wrapped texts. -/
namespace ViewCases.Bracket
open Text

inductive Side
  | opens
  | closes
  deriving DecidableEq, Repr

inductive WellBracketed : List Side → Prop
  | nil : WellBracketed []
  | pair {u v : List Side} : WellBracketed u → WellBracketed v →
      WellBracketed (.opens :: u ++ .closes :: v)

/-- The brackets of one kind in the order of the text, given the character before it. The head of
an arrow is not among them. -/
def sides (b : Bracket) (prev : Option Char) : Text → List Side
  | [] => []
  | c :: cs =>
    if c = b.opener then .opens :: sides b (some c) cs
    else if b.closes prev c then .closes :: sides b (some c) cs
    else sides b (some c) cs

/-- Whether a word closes what it opens and `n` brackets that were open before it. -/
def settles : Nat → List Side → Bool
  | n, [] => n == 0
  | n, .opens :: w => settles (n + 1) w
  | 0, .closes :: _ => false
  | n + 1, .closes :: w => settles n w

theorem balancedFrom_eq_settles (b : Bracket) (prev : Option Char) (n : Nat) (t : Text) :
    balancedFrom b prev n t = settles n (sides b prev t) := by
  induction t generalizing prev n with
  | nil => rfl
  | cons c cs ih =>
    unfold balancedFrom sides
    split
    · exact ih _ _
    · split
      · cases n with
        | zero => rfl
        | succ n => exact ih _ _
      · exact ih _ _

/-- Words with `n` closing brackets too many, and well-bracketed ones around each of these. -/
inductive Unwinds : Nat → List Side → Prop
  | level {w : List Side} : WellBracketed w → Unwinds 0 w
  | down {n : Nat} {w v : List Side} : WellBracketed w → Unwinds n v →
      Unwinds (n + 1) (w ++ .closes :: v)

theorem Unwinds.opens {n : Nat} {w : List Side} (h : Unwinds (n + 1) w) :
    Unwinds n (.opens :: w) := by
  cases h with
  | down inside behind =>
    -- The first bracket too many is the partner of the new one.
    cases behind with
    | level rest => exact .level (.pair inside rest)
    | down next rest =>
      have regrouped := Unwinds.down (.pair inside next) rest
      simpa using regrouped

theorem unwinds_of_settles {n : Nat} {w : List Side} (h : settles n w = true) : Unwinds n w := by
  induction w generalizing n with
  | nil =>
    have zero : n = 0 := by simpa [settles] using h
    subst zero
    exact .level .nil
  | cons s w ih =>
    cases s with
    | opens => exact (ih h).opens
    | closes =>
      cases n with
      | zero => cases h
      | succ n => exact .down .nil (ih h)

theorem WellBracketed.settles_append {u : List Side} (h : WellBracketed u) (n : Nat)
    (w : List Side) : settles n (u ++ w) = settles n w := by
  induction h generalizing n w with
  | nil => rfl
  | pair _ _ inside behind =>
    rw [List.append_assoc, List.cons_append, settles, inside, List.cons_append, settles]
    exact behind n w

theorem wellBracketed_iff {w : List Side} : WellBracketed w ↔ settles 0 w = true := by
  constructor
  · intro h
    have whole := h.settles_append 0 []
    rwa [List.append_nil] at whole
  · intro h
    cases unwinds_of_settles h with
    | level grammatical => exact grammatical

theorem isBalanced_iff_wellBracketed {t : Text} :
    isBalanced t = true ↔ ∀ b, WellBracketed (sides b none t) := by
  unfold isBalanced
  rw [List.all_eq_true]
  constructor
  · intro h b
    have count := h b (mem_all b)
    rw [balancedFrom_eq_settles] at count
    exact wellBracketed_iff.mpr count
  · intro h b _
    rw [balancedFrom_eq_settles]
    exact wellBracketed_iff.mp (h b)

theorem sides_append (b : Bracket) (prev : Option Char) (a c : Text) :
    sides b prev (a ++ c) = sides b prev a ++ sides b (lastOf prev a) c := by
  induction a generalizing prev with
  | nil => rfl
  | cons d ds ih =>
    rw [List.cons_append, sides, sides, lastOf, ih]
    split
    · rfl
    · split <;> rfl

theorem head_of_isBalanced {c : Text} (h : isBalanced c = true) : c.head? ≠ some '>' := by
  intro head
  obtain ⟨cs, rfl⟩ := List.head?_eq_some_iff.mp head
  have angle := List.all_eq_true.mp h .angle (mem_all _)
  cases angle

theorem sides_eq_none {b : Bracket} {prev : Option Char} {c : Text} (h : c.head? ≠ some '>') :
    sides b prev c = sides b none c := by
  cases c with
  | nil => rfl
  | cons d ds =>
    have other : d ≠ '>' := by simpa using h
    have same : b.closes prev d = b.closes none d := by simp [closes, arrowHead, other]
    simp only [sides, same]

theorem sides_join (b : Bracket) (a : Text) {c : Text} (h : isBalanced c = true) :
    sides b none (a ++ c) = sides b none a ++ sides b none c := by
  rw [sides_append, sides_eq_none (head_of_isBalanced h)]

theorem isBalanced_append_iff (a : Text) {c : Text} (h : isBalanced c = true) :
    isBalanced (a ++ c) = true ↔ isBalanced a = true := by
  have closed := isBalanced_iff.mp h
  rw [isBalanced_iff, isBalanced_iff, marks_append (.inr (head_of_isBalanced h))]
  constructor
  · intro whole
    exact whole.of_append_right closed
  · intro front
    exact front.append closed

theorem isBalanced_wrap {b : Bracket} {a : Text} (h : isBalanced a = true)
    (tail : a.getLast? ≠ some '-' ∨ b ≠ .angle) :
    isBalanced (b.opener :: a ++ [b.closer]) = true := by
  rw [isBalanced_iff, marks_wrap tail]
  exact (isBalanced_iff.mp h).wrap b

theorem not_isBalanced_arrow {a : Text} (h : isBalanced a = true)
    (hyphen : a.getLast? = some '-') : isBalanced ('<' :: a ++ ['>']) ≠ true := by
  intro whole
  have inside : marks ('<' :: a) = .opens .angle :: marks a := marks_opener_cons .angle a
  have head : marksFrom (lastOf none ('<' :: a)) ['>'] = [.arrow] := by
    rw [lastOf_none, List.getLast?_cons, hyphen]
    rfl
  rw [isBalanced_iff, marks, marksFrom_append, ← marks, inside, head, Closed, List.cons_append,
    walk, walk_append, (isBalanced_iff.mp h).walk] at whole
  have level := congrFun (Option.some.inj whole) .angle
  cases level

theorem isBalanced_angle_iff {a : Text} (h : isBalanced a = true) :
    isBalanced ('<' :: a ++ ['>']) = true ↔ a.getLast? ≠ some '-' := by
  constructor
  · intro whole hyphen
    exact not_isBalanced_arrow h hyphen whole
  · intro tail
    exact isBalanced_wrap (b := .angle) h (.inl tail)

/-- Balance is membership in the language of the grammar, kind by kind. A join of balanced texts
is balanced, its words are the joined words, and the front of a balanced text is balanced where
the end is. Brackets around a balanced text keep it balanced, angle brackets exactly where no
arrow comes of the last one. -/
theorem isBalanced_language (t a c : Text) :
    (isBalanced t = true ↔ ∀ b, WellBracketed (sides b none t)) ∧
    (isBalanced a = true → isBalanced c = true → isBalanced (a ++ c) = true ∧
      ∀ b, sides b none (a ++ c) = sides b none a ++ sides b none c) ∧
    (isBalanced (a ++ c) = true → isBalanced c = true → isBalanced a = true) ∧
    (isBalanced a = true →
      isBalanced ('(' :: a ++ [')']) = true ∧
      isBalanced ('[' :: a ++ [']']) = true ∧
      isBalanced ('\x7b' :: a ++ ['\x7d']) = true ∧
      (isBalanced ('<' :: a ++ ['>']) = true ↔ a.getLast? ≠ some '-')) := by
  refine ⟨isBalanced_iff_wellBracketed, ?_, ?_, ?_⟩
  · intro front behind
    exact ⟨(isBalanced_append_iff a behind).mpr front, fun b => sides_join b a behind⟩
  · intro whole behind
    exact (isBalanced_append_iff a behind).mp whole
  · intro inside
    have wrap : ∀ b : Bracket, b ≠ .angle → isBalanced (b.opener :: a ++ [b.closer]) = true :=
      fun b other => isBalanced_wrap inside (.inr other)
    exact ⟨wrap .paren (by decide), wrap .square (by decide), wrap .brace (by decide),
      isBalanced_angle_iff inside⟩

theorem isBalanced_language_crossing :
    let a : Text := "(<)> ->"
    let c : Text := "[x -> \x7by\x7d] -"
    isBalanced a = true ∧ isBalanced c = true ∧
      (∀ b, WellBracketed (sides b none a)) ∧
      (isBalanced (a ++ c) = true ∧
        ∀ b, sides b none (a ++ c) = sides b none a ++ sides b none c) ∧
      isBalanced ('<' :: a ++ ['>']) = true ∧ isBalanced ('<' :: c ++ ['>']) ≠ true := by
  intro a c
  have front : isBalanced a = true := by decide +kernel
  have behind : isBalanced c = true := by decide +kernel
  obtain ⟨words, join, -, wrapped⟩ := isBalanced_language a a c
  obtain ⟨-, -, -, hyphen⟩ := isBalanced_language c c []
  obtain ⟨-, -, -, angle⟩ := wrapped front
  obtain ⟨-, -, -, arrow⟩ := hyphen behind
  exact ⟨front, behind, words.mp front, join front behind, angle.mpr (by decide +kernel),
    mt arrow.mp (by decide +kernel)⟩

end ViewCases.Bracket
