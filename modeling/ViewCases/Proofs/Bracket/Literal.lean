import ViewCases.Proofs.Bracket.Resumed

/-! A string literal in a text. The scans do not know quotes, so brackets and commas between
them count. Contents that close all they open are passed by every scan, and what it finds
around them does not depend on which they are. -/
namespace ViewCases
open Text ViewCases.Bracket

def literal (z : Text) : Text := '"' :: z ++ ['"']

theorem literal_append (z t : Text) : literal z ++ t = '"' :: (z ++ '"' :: t) := by
  simp [literal]

namespace Bracket

theorem quote_not_bracket (prev : Option Char) : isBracket prev '"' = false := by
  cases prev <;> rfl

theorem strip_literal (x z y : Text) :
    strip (x ++ (literal z ++ y)) = stripStart x ++ (literal z ++ stripEnd y) := by
  obtain ⟨l, blank, eq⟩ := stripStart_decompose x
  have front : stripStart (x ++ (literal z ++ y)) = stripStart x ++ (literal z ++ y) := by
    conv_lhs => rw [eq]
    rw [List.append_assoc, stripStart_append blank, stripStart_of_head]
    intro c hc
    cases first : stripStart x with
    | nil =>
      rw [first] at hc
      cases hc
      decide
    | cons d ds =>
      rw [first] at hc
      cases hc
      exact head_stripStart_not_blank first
  rw [strip, front, ← List.append_assoc, stripEnd_append_of_last]
  · rw [List.append_assoc]
  · intro c hc
    rw [literal, ← List.append_assoc, List.getLast?_concat] at hc
    cases hc
    decide

def ParensClosed (z : Text) : Prop := balancedFrom .paren none 0 z = true

instance : DecidablePred ParensClosed := fun z =>
  inferInstanceAs (Decidable (balancedFrom .paren none 0 z = true))

theorem parensClosed_of_isBalanced {z : Text} (h : isBalanced z = true) : ParensClosed z :=
  List.all_eq_true.mp h .paren (by decide)

theorem partnerFrom_literal {z : Text} (closed : ParensClosed z) {k : Nat} (hk : 1 ≤ k)
    (prev : Option Char) (pos : Nat) (y : Text) :
    partnerFrom .paren prev k pos (literal z ++ y) =
      (partnerFrom .paren (some '"') k 0 y).map (pos + (literal z).length + ·) := by
  have inside : balancedFrom .paren (some '"') 0 z = true := by
    rw [balancedFrom_eq_none (by decide)]
    exact closed
  have len : pos + (literal z).length + 0 = pos + 1 + z.length + 1 := by simp [literal]; omega
  rw [literal_append, partnerFrom_of_not_bracket .paren (quote_not_bracket prev)]
  have pass := partnerFrom_balanced inside hk (pos + 1) ('"' :: y)
  rw [Nat.add_zero] at pass
  rw [pass, partnerFrom_of_not_bracket .paren (quote_not_bracket _), ← len, partnerFrom_shift]

/-- Parentheses that are open before a literal are closed at a place behind it that is the
same for all contents, or at none. -/
theorem partner?_literal {a : Text} (opens : partner? .paren ('(' :: a) = none) (y : Text) :
    (∀ z, ParensClosed z → partner? .paren ('(' :: a ++ (literal z ++ y)) = none) ∨
      ∃ b r, y = b ++ ')' :: r ∧ ∀ z, ParensClosed z →
        partner? .paren ('(' :: a ++ (literal z ++ y)) =
          some (1 + a.length + (literal z).length + b.length) := by
  have first : ∀ t, partner? .paren ('(' :: t) = partnerFrom .paren (some '(') 1 1 t := by
    intro t
    simp [partner?, partnerFrom, opener]
  rw [first] at opens
  obtain ⟨k, open_, onward⟩ := partnerFrom_none_append opens
  have whole : ∀ z, ParensClosed z → partner? .paren ('(' :: a ++ (literal z ++ y)) =
      (partnerFrom .paren (some '"') k 0 y).map (1 + a.length + (literal z).length + ·) := by
    intro z closed
    rw [List.cons_append, first, onward, partnerFrom_literal closed (open_ (Nat.le_refl 1))]
  cases behind : partnerFrom .paren (some '"') k 0 y with
  | none =>
    left
    intro z closed
    rw [whole z closed, behind]
    rfl
  | some i =>
    right
    obtain ⟨b, r, split, at_, -⟩ := partnerFrom_eq_some behind
    refine ⟨b, r, split, fun z closed => ?_⟩
    rw [whole z closed, behind, at_, Nat.zero_add]
    rfl

theorem closed_of_isBalanced {z : Text} (h : isBalanced z = true) :
    Closed (marksFrom (some '"') z) := by
  rw [marksFrom_eq_marks (.inl (by decide))]
  exact isBalanced_iff.mp h

theorem findTopLevel_literal {x : Char} (plain : isOpener x = false ∧ isCloser x = false)
    (other : x ≠ '"') {c : Text} (inside : 1 ≤ depthAfter none 0 c) {z : Text}
    (balanced : isBalanced z = true) (y : Text) :
    findTopLevel [x] (c ++ (literal z ++ y)) = (findTopLevel [x] c).or
      ((findFrom [x] false (some '"') (depthAfter none 0 c) 0 y).map
        (c.length + (literal z).length + ·)) := by
  have quote : ∀ (prev : Option Char) (d pos : Nat) (t : Text),
      findFrom [x] false prev d pos ('"' :: t) = findFrom [x] false (some '"') d (pos + 1) t := by
    intro prev d pos t
    have same : depthAfter prev d ['"'] = d := by
      simp [depthAfter, isOpener, isCloser, all, opener, closer]
    rw [findFrom_cons plain '"' t (by simp), same]
    simp [Ne.symm other]
  have len : c.length + (literal z).length + 0 = 0 + c.length + 1 + z.length + 1 := by
    simp [literal]
    omega
  simp only [findTopLevel, List.take_zero, List.getLast?_nil, List.drop_zero]
  rw [findFrom_resumed plain (by simp) (by simp [literal_append]), literal_append, quote,
    findFrom_closed [x] (closed_of_isBalanced balanced) inside, quote, ← len, findFrom_shift]

theorem findTopLevel_before {x : Char} (plain : isOpener x = false ∧ isCloser x = false)
    {c : Text} {i : Nat} (found : findTopLevel [x] c = some i) (z y : Text) :
    findTopLevel [x] (c ++ (literal z ++ y)) = some i := by
  simp only [findTopLevel, List.take_zero, List.getLast?_nil, List.drop_zero] at found ⊢
  rw [findFrom_resumed plain (by simp) (by simp [literal_append]), found]
  rfl

/-- Contents that close all they open and have no comma where the segments are cut. -/
def Whole (l : Levels) (z : Text) : Prop :=
  isBalanced z = true ∧ segments (some '"') l z = [z]

instance (l : Levels) (z : Text) : Decidable (Whole l z) :=
  inferInstanceAs (Decidable (_ ∧ _))

theorem segments_quote (prev : Option Char) (l : Levels) (t : Text) :
    segments prev l ('"' :: t) = prepend ['"'] (segments (some '"') l t) := by
  rw [segments_of_not_cuts (by simp [cuts]),
    Levels.step_of_not_bracket l (quote_not_bracket prev)]

theorem segments_literal (prev : Option Char) {l : Levels} {z : Text} (h : Whole l z) (y : Text) :
    segments prev l (literal z ++ y) = prepend (literal z) (segments (some '"') l y) := by
  obtain ⟨balanced, single⟩ := h
  obtain ⟨done, last, eq, onward⟩ := segments_resumed (some '"') l z
  have eq : [] ++ [z] = done ++ [last] := single.symm.trans eq
  obtain ⟨rfl, one⟩ := List.append_inj' eq rfl
  cases one
  have ne := segments_ne_nil (some '"') l y
  have ne' : ∀ a, prepend a (segments (some '"') l y) ≠ [] := by
    intro a
    cases segments (some '"') l y <;> exact List.cons_ne_nil _ _
  rw [literal_append, segments_quote, onward, levelsAfter_closed (closed_of_isBalanced balanced),
    segments_quote, List.nil_append, prepend_prepend _ _ ne, prepend_prepend _ _ ne]
  rfl

theorem splitTopLevel_literal {list clause : Text} {done : List Text}
    (cut : segments none {} list = done ++ [clause]) (b : Text) :
    ∃ (s : Text) (ss : List Text), ∀ z, Whole (levelsAfter none {} list) z →
      splitTopLevel (list ++ (literal z ++ b)) =
        done.map strip ++ (stripStart clause ++ (literal z ++ stripEnd s)) :: ss.map strip := by
  obtain ⟨done', clause', eq, onward⟩ := segments_resumed none {} list
  obtain ⟨rfl, one⟩ := List.append_inj' (cut.symm.trans eq) rfl
  cases one
  cases behind : segments (some '"') (levelsAfter none {} list) b with
  | nil => exact absurd behind (segments_ne_nil _ _ _)
  | cons s ss =>
    refine ⟨s, ss, fun z whole => ?_⟩
    have inhabited : (list ++ (literal z ++ b)).all isBlank = false := by
      simp [literal, show isBlank '"' = false by decide]
    have cuts : segments none {} (list ++ (literal z ++ b)) =
        done ++ (clause ++ (literal z ++ s)) :: ss := by
      rw [onward, segments_literal _ whole, behind]
      rfl
    unfold segments at cuts
    rw [splitTopLevel, splitTopLevelBy, inhabited]
    simp only [Bool.false_eq_true, if_false]
    rw [cuts, List.map_append, List.map_cons, strip_literal]

end Bracket
end ViewCases
