import ViewCases.Proofs.Attribute
import ViewCases.Proofs.Bracket.Literal
import ViewCases.Proofs.Signature.Front

/-! String literals in the arguments of attributes. The argument ends where its parentheses
are closed, and those between quotes count. -/
namespace ViewCases.Attribute
open Text ViewCases.Bracket

/-- The text ends inside the argument of an attribute. -/
structure LeavesOpen (word argument : Text) : Prop where
  word : WordText word
  opens : partner? .paren ('(' :: argument) = none

theorem takeArgument_literal {a : Text} (opens : partner? .paren ('(' :: a) = none) (y : Text) :
    (∀ z, ParensClosed z → (takeArgument ('(' :: a ++ (literal z ++ y))).2 = []) ∨
      ∃ b r, ∀ z, ParensClosed z →
        takeArgument ('(' :: a ++ (literal z ++ y)) = ('(' :: a ++ (literal z ++ b), r) := by
  rcases partner?_literal opens y with never | ⟨b, r, rfl, closes⟩
  · left
    intro z closed
    have head : ('(' :: a ++ (literal z ++ y)).head? = some '(' := rfl
    rw [takeArgument, if_pos head, never z closed]
  · right
    refine ⟨b ++ [')'], r, fun z closed => ?_⟩
    have whole : '(' :: a ++ (literal z ++ (b ++ ')' :: r)) =
        ('(' :: a ++ (literal z ++ (b ++ [')']))) ++ r := by simp
    have len : 1 + a.length + (literal z).length + b.length + 1 =
        ('(' :: a ++ (literal z ++ (b ++ [')']))).length := by simp; omega
    have head : ('(' :: a ++ (literal z ++ (b ++ ')' :: r))).head? = some '(' := rfl
    rw [takeArgument, if_pos head, closes z closed]
    simp only
    rw [len, whole, List.take_left, List.drop_left]

theorem take?_literal {word a : Text} (h : LeavesOpen word a) (y : Text) :
    (∀ z, ParensClosed z → ∃ mark, take? ('@' :: word ++ '(' :: a ++ (literal z ++ y)) =
        some (mark, [])) ∨
      ∃ b r, ∀ z, ParensClosed z → take? ('@' :: word ++ '(' :: a ++ (literal z ++ y)) =
        some ('@' :: word ++ '(' :: a ++ (literal z ++ b), r) := by
  have named : ∀ t, take? ('@' :: word ++ '(' :: a ++ t) =
      some ('@' :: word ++ (takeArgument ('(' :: a ++ t)).1, (takeArgument ('(' :: a ++ t)).2) := by
    intro t
    have text : '@' :: word ++ '(' :: a ++ t = '@' :: word ++ '(' :: (a ++ t) := by simp
    rw [text, take?, name?_word h.word (by decide)]
    rfl
  rcases takeArgument_literal h.opens y with all | ⟨b, r, ends⟩
  · left
    intro z closed
    exact ⟨_, by rw [named, all z closed]⟩
  · right
    refine ⟨b, r, fun z closed => ?_⟩
    rw [named, ends z closed]
    simp

/-- The scan of attributes comes from one text to another. -/
inductive TakesTo : Text → Text → Prop
  | here (t : Text) : TakesTo t (stripStart t)
  | mark {t mark rest u : Text} : take? (stripStart t) = some (mark, rest) → TakesTo rest u →
      TakesTo t u

theorem takeAll_stripStart (t : Text) : takeAll (stripStart t) = takeAll t := by
  obtain ⟨l, blank, eq⟩ := stripStart_decompose t
  conv_rhs => rw [eq]
  exact (takeAll_blank blank _).symm

theorem TakesTo.ne_nil {t u : Text} (h : TakesTo t u) (ne : u ≠ []) : stripStart t ≠ [] := by
  cases h with
  | here t => exact ne
  | mark found _ =>
    intro empty
    rw [empty] at found
    cases found

theorem TakesTo.takeAll_append {t u : Text} (h : TakesTo t u) (ne : u ≠ []) (x : Text) :
    (takeAll (t ++ x)).2 = (takeAll (u ++ x)).2 := by
  induction h with
  | here t => rw [← takeAll_stripStart (t ++ x), FunctionHeader.stripStart_append_of_ne ne]
  | @mark t mark rest u found later ih =>
    have behind : rest ≠ [] := by
      rintro rfl
      exact later.ne_nil ne rfl
    have inhabited : stripStart t ≠ [] := (TakesTo.mark found later).ne_nil ne
    have longer : take? (stripStart (t ++ x)) = some (mark, rest ++ x) := by
      rw [FunctionHeader.stripStart_append_of_ne inhabited]
      exact FunctionHeader.take?_local _ _ _ found behind x
    rw [takeAll_of_take? longer, ih ne]

end ViewCases.Attribute
