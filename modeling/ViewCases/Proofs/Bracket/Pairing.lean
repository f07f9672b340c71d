import Mathlib.Data.Set.Function
import ViewCases.Proofs.Bracket.Resumed

/-! Partners in a balanced text. The height of a place is the number of brackets of one kind that
are open before it. A bracket and its partner are the ends of a stretch that stays higher than the
place before it, and two such stretches are nested or apart. Nothing is said of texts that are not
balanced, where a search can come back with nothing. -/
namespace ViewCases.Bracket
open Text

def change (b : Bracket) (prev : Option Char) (c : Char) : Int :=
  if c = b.opener then 1 else if b.closes prev c then -1 else 0

/-- Opening brackets less closing ones among the first characters of a text. -/
def height (b : Bracket) (prev : Option Char) : Text → Nat → Int
  | [], _ => 0
  | _ :: _, 0 => 0
  | c :: cs, k + 1 => change b prev c + height b (some c) cs k

theorem height_zero (b : Bracket) (prev : Option Char) (t : Text) : height b prev t 0 = 0 := by
  cases t <;> rfl

theorem height_add (b : Bracket) (prev : Option Char) (t : Text) (i k : Nat) :
    height b prev t (i + k) =
      height b prev t i + height b (lastOf prev (t.take i)) (t.drop i) k := by
  induction t generalizing prev i with
  | nil => simp [height]
  | cons c cs ih =>
    cases i with
    | zero => simp [height, lastOf]
    | succ i =>
      rw [Nat.add_right_comm, height, height, ih, List.take_succ_cons, List.drop_succ_cons, lastOf]
      omega

theorem height_of_balancedFrom {b : Bracket} {prev : Option Char} {n : Nat} {t : Text}
    (h : balancedFrom b prev n t = true) : ∀ k, 0 ≤ n + height b prev t k := by
  induction t generalizing prev n with
  | nil => simp [height]
  | cons c cs ih =>
    intro k
    cases k with
    | zero => simp [height]
    | succ k =>
      unfold balancedFrom at h
      unfold height change
      split at h
      · next opens =>
        have later := ih h k
        rw [if_pos opens]
        omega
      · next other =>
        rw [if_neg other]
        split at h
        · next shut =>
          cases n with
          | zero => cases h
          | succ n =>
            have later := ih h k
            rw [if_pos shut]
            omega
        · next plain =>
          have later := ih h k
          rw [if_neg plain]
          omega

/-- The character at a place is the head of an arrow. -/
def ArrowHeadAt (t : Text) (i : Nat) : Prop :=
  t[i]? = some '>' ∧ 0 < i ∧ t[i - 1]? = some '-'

def openers (b : Bracket) (t : Text) : Set Nat := {i | t[i]? = some b.opener}

def closers (b : Bracket) (t : Text) : Set Nat := {i | t[i]? = some b.closer ∧ ¬ArrowHeadAt t i}

variable {b : Bracket} {t : Text} {i j : Nat}

theorem arrowHead_iff {c : Char} (h : t[i]? = some c) :
    arrowHead (lastOf none (t.take i)) c = true ↔ ArrowHeadAt t i := by
  have inside : i < t.length := (List.getElem?_eq_some_iff.mp h).1
  have before : (t.take i).getLast? = if i = 0 then none else t[i - 1]? := by
    rw [List.getLast?_take]
    split
    · rfl
    · rw [List.getElem?_eq_getElem (show i - 1 < t.length by omega)]
      rfl
  rw [lastOf_none, before, ArrowHeadAt, h, arrowHead]
  cases i with
  | zero => simp
  | succ i => simp

theorem height_succ (b : Bracket) {c : Char} (h : t[i]? = some c) :
    height b none t (i + 1) = height b none t i + change b (lastOf none (t.take i)) c := by
  obtain ⟨inside, rfl⟩ := List.getElem?_eq_some_iff.mp h
  rw [height_add, List.drop_eq_getElem_cons inside, height, height_zero]
  omega

theorem height_succ_of_le (b : Bracket) (h : t.length ≤ i) :
    height b none t (i + 1) = height b none t i := by
  rw [height_add, List.drop_eq_nil_of_le h, height]
  omega

theorem height_step (b : Bracket) (t : Text) (i : Nat) :
    height b none t (i + 1) ≤ height b none t i + 1 ∧
      height b none t i - 1 ≤ height b none t (i + 1) := by
  cases h : t[i]? with
  | none =>
    have same := height_succ_of_le b (List.getElem?_eq_none_iff.mp h)
    omega
  | some c =>
    have step := height_succ b h
    unfold change at step
    split at step
    · omega
    · split at step <;> omega

theorem mem_openers_iff :
    i ∈ openers b t ↔ height b none t (i + 1) = height b none t i + 1 := by
  change t[i]? = some b.opener ↔ _
  cases h : t[i]? with
  | none =>
    have same := height_succ_of_le b (List.getElem?_eq_none_iff.mp h)
    simp only [same, reduceCtorEq, false_iff]
    omega
  | some c =>
    rw [height_succ b h, change, Option.some.injEq]
    split
    · next opens => simp [opens]
    · next other =>
      simp only [other, false_iff]
      split <;> omega

theorem mem_closers_iff :
    i ∈ closers b t ↔ height b none t (i + 1) = height b none t i - 1 := by
  change t[i]? = some b.closer ∧ ¬ArrowHeadAt t i ↔ _
  cases h : t[i]? with
  | none =>
    have same := height_succ_of_le b (List.getElem?_eq_none_iff.mp h)
    simp only [same, reduceCtorEq, false_and, false_iff]
    omega
  | some c =>
    have shut : b.closes (lastOf none (t.take i)) c = true ↔
        c = b.closer ∧ ¬ArrowHeadAt t i := by
      rw [closes, Bool.and_eq_true, beq_iff_eq, Bool.not_eq_true', ← arrowHead_iff h,
        Bool.not_eq_true]
    rw [height_succ b h, change, Option.some.injEq, ← shut]
    split
    · next opens =>
      have notShut : b.closes (lastOf none (t.take i)) c = false := by
        simp [closes, opens, opener_ne_closer]
      simp only [notShut, Bool.false_eq_true, false_iff]
      omega
    · split
      · next shut =>
        simp only [shut, true_iff]
        omega
      · next plain =>
        simp only [plain, Bool.false_eq_true, false_iff]
        omega

/-- Between the two places the text stays higher than before them. -/
structure Pairs (b : Bracket) (t : Text) (i j : Nat) : Prop where
  ahead : i < j
  level : height b none t (j + 1) = height b none t i
  higher : ∀ k, i < k → k ≤ j → height b none t i < height b none t k

theorem partnerFrom_eq_some_iff {prev : Option Char} {d : Nat} (open_ : 1 ≤ d) (pos : Nat) :
    partnerFrom b prev d pos t = some (pos + i) ↔
      i < t.length ∧ d + height b prev t (i + 1) = 0 ∧ ∀ k ≤ i, 1 ≤ d + height b prev t k := by
  induction t generalizing prev d pos i with
  | nil => simp [partnerFrom]
  | cons c cs ih =>
    -- A search that goes on stands at a positive height behind the character.
    have further : ∀ e : Nat, 1 ≤ e → (e : Int) = d + change b prev c →
        (partnerFrom b (some c) e (pos + 1) cs = some (pos + i) ↔
          i < (c :: cs).length ∧ d + height b prev (c :: cs) (i + 1) = 0 ∧
            ∀ k ≤ i, 1 ≤ d + height b prev (c :: cs) k) := by
      intro e positive moved
      cases i with
      | zero =>
        have never : partnerFrom b (some c) e (pos + 1) cs ≠ some (pos + 0) := by
          intro found
          have := partnerFrom_lt found
          omega
        have above : ¬((d : Int) + height b prev (c :: cs) (0 + 1) = 0) := by
          rw [height, height_zero]
          omega
        simp only [never, above, false_and, and_false]
      | succ i =>
        have place : pos + (i + 1) = pos + 1 + i := by omega
        rw [place, ih positive, List.length_cons, height]
        constructor
        · rintro ⟨inside, down, above⟩
          refine ⟨by omega, by omega, fun k le => ?_⟩
          cases k with
          | zero =>
            rw [height_zero]
            omega
          | succ k =>
            have later := above k (by omega)
            rw [height]
            omega
        · rintro ⟨inside, down, above⟩
          refine ⟨by omega, by omega, fun k le => ?_⟩
          have later := above (k + 1) (by omega)
          rw [height] at later
          omega
    rw [partnerFrom]
    split
    · next opens => exact further (d + 1) (by omega) (by simp [change, opens])
    · next other =>
      split
      · next shut =>
        have down : change b prev c = -1 := by simp [change, other, shut]
        split
        · next last =>
          subst last
          cases i with
          | zero => simp [height, height_zero, down]
          | succ i =>
            have low : ¬∀ k ≤ i + 1, 1 ≤ ((1 : Nat) : Int) + height b prev (c :: cs) k := by
              intro above
              have first := above 1 (by omega)
              rw [height, height_zero, down] at first
              omega
            have notHere : ¬(some pos = some (pos + (i + 1))) := by simp
            simp only [notHere, low, and_false]
        · next more => exact further (d - 1) (by omega) (by omega)
      · next plain => exact further d open_ (by simp [change, other, plain])

theorem findMatching_eq_some_iff (h : i ∈ openers b t) :
    findMatching t i = .ok (some j) ↔ Pairs b t i j := by
  obtain ⟨inside, eq⟩ := List.getElem?_eq_some_iff.mp h
  have rise := mem_openers_iff.mp h
  have text : t.drop i = b.opener :: t.drop (i + 1) := by
    rw [List.drop_eq_getElem_cons inside, eq]
  have search : findMatching t i =
      .ok ((partnerFrom b (some b.opener) 1 1 (t.drop (i + 1))).map (i + ·)) := by
    simp [findMatching, text, ofOpener?_opener, partner?, partnerFrom]
  have before : lastOf none (t.take (i + 1)) = some b.opener := by
    rw [List.take_succ_eq_append_getElem inside, eq, lastOf_append]
    rfl
  -- The search counts from one behind the bracket, the height from zero at the front of the text.
  have behind : ∀ k, height b none t (i + 1 + k) =
      height b none t i + 1 + height b (some b.opener) (t.drop (i + 1)) k := by
    intro k
    rw [height_add, before, rise]
  rw [search, Except.ok.injEq, Option.map_eq_some_iff]
  constructor
  · rintro ⟨m, found, rfl⟩
    obtain ⟨k, rfl⟩ : ∃ k, m = 1 + k := Nat.exists_eq_add_of_le (partnerFrom_lt found).1
    obtain ⟨-, down, above⟩ := (partnerFrom_eq_some_iff (Nat.le_refl 1) 1).mp found
    have last := behind (k + 1)
    refine ⟨by omega, ?_, fun l after before => ?_⟩
    · rw [show i + (1 + k) + 1 = i + 1 + (k + 1) by omega, last]
      omega
    · obtain ⟨m, rfl⟩ := Nat.exists_eq_add_of_le (show i + 1 ≤ l from after)
      have high := above m (by omega)
      rw [behind]
      omega
  · rintro ⟨ahead, level, higher⟩
    obtain ⟨k, rfl⟩ := Nat.exists_eq_add_of_le (show i + 1 ≤ j from ahead)
    have falls : i + 1 + k ∈ closers b t := by
      have high := higher (i + 1 + k) (by omega) (Nat.le_refl _)
      have step := height_step b t (i + 1 + k)
      rw [mem_closers_iff]
      omega
    have inside := (List.getElem?_eq_some_iff.mp falls.1).1
    refine ⟨1 + k, ?_, by omega⟩
    rw [partnerFrom_eq_some_iff (Nat.le_refl 1)]
    refine ⟨by rw [List.length_drop]; omega, ?_, fun m le => ?_⟩
    · have last := behind (k + 1)
      rw [show i + 1 + (k + 1) = i + 1 + k + 1 by omega, level] at last
      omega
    · have high := higher (i + 1 + m) (by omega) (by omega)
      rw [behind] at high
      omega

theorem Pairs.opens (h : Pairs b t i j) : i ∈ openers b t := by
  have high := h.higher (i + 1) (by omega) h.ahead
  have step := height_step b t i
  rw [mem_openers_iff]
  omega

theorem Pairs.closes (h : Pairs b t i j) : j ∈ closers b t := by
  have high := h.higher j h.ahead (Nat.le_refl j)
  have level := h.level
  have step := height_step b t j
  rw [mem_closers_iff]
  omega

theorem Pairs.nested {i' j' : Nat} (h : Pairs b t i j) (h' : Pairs b t i' j') (before : i < i') :
    j < i' ∨ j' < j := by
  by_contra crossing
  obtain ⟨inside, beyond⟩ : i' ≤ j ∧ j ≤ j' := by omega
  have high := h.higher i' before inside
  have level := h.level
  have ahead := h'.ahead
  have level' := h'.level
  rcases Nat.eq_or_lt_of_le beyond with rfl | further
  · omega
  · have higher := h'.higher (j + 1) (by omega) further
    omega

theorem Pairs.injective {i' : Nat} (h : Pairs b t i j) (h' : Pairs b t i' j) : i = i' := by
  have ahead := h.ahead
  have ahead' := h'.ahead
  rcases Nat.lt_trichotomy i i' with before | same | behind
  · have := h.nested h' before
    omega
  · exact same
  · have := h'.nested h behind
    omega

theorem exists_pairs_of_opener (balanced : balancedFrom b none 0 t = true)
    (h : i ∈ openers b t) : ∃ j, Pairs b t i j := by
  obtain ⟨inside, eq⟩ := List.getElem?_eq_some_iff.mp h
  have text : t = t.take i ++ b.opener :: t.drop (i + 1) := by
    rw [← eq, ← List.drop_eq_getElem_cons inside, List.take_append_drop]
  rw [text] at balanced
  obtain ⟨m, partner⟩ := exists_partner balanced
  refine ⟨i + m, (findMatching_eq_some_iff h).mp ?_⟩
  have matched := findMatching_opener b (t.take i) (t.drop (i + 1))
  rw [← text, partner, List.length_take_of_le (Nat.le_of_lt inside)] at matched
  exact matched

theorem exists_last_le {f : Nat → Int} {n : Int} (start : f 0 ≤ n) (j : Nat) :
    ∃ i ≤ j, f i ≤ n ∧ ∀ k, i < k → k ≤ j → n < f k := by
  induction j with
  | zero => exact ⟨0, Nat.le_refl 0, start, fun k behind before => by omega⟩
  | succ j ih =>
    by_cases low : f (j + 1) ≤ n
    · exact ⟨j + 1, Nat.le_refl _, low, fun k behind before => by omega⟩
    · obtain ⟨i, le, lowest, higher⟩ := ih
      refine ⟨i, by omega, lowest, fun k behind before => ?_⟩
      rcases Nat.eq_or_lt_of_le before with rfl | earlier
      · omega
      · exact higher k behind (by omega)

theorem exists_pairs_of_closer (balanced : balancedFrom b none 0 t = true)
    (h : j ∈ closers b t) : ∃ i, Pairs b t i j := by
  have falls := mem_closers_iff.mp h
  have ground : height b none t 0 ≤ height b none t (j + 1) := by
    have above := height_of_balancedFrom balanced (j + 1)
    rw [height_zero]
    omega
  obtain ⟨i, le, low, higher⟩ := exists_last_le ground j
  have apart : i ≠ j := by
    rintro rfl
    omega
  have rise := higher (i + 1) (by omega) (by omega)
  have step := height_step b t i
  have level : height b none t (j + 1) = height b none t i := by omega
  exact ⟨i, by omega, level, fun k behind before => level ▸ higher k behind before⟩

/-- In a balanced text every opening bracket has a partner behind it. For each kind the partners
are exactly the closing brackets that are no head of an arrow, each of one opening bracket, and
two pairs of one kind are nested or apart. -/
theorem findMatching_pairing (balanced : isBalanced t = true) (b : Bracket) :
    ∃ partner : Nat → Nat,
      (∀ i ∈ openers b t, findMatching t i = .ok (some (partner i)) ∧ i < partner i) ∧
      Set.BijOn partner (openers b t) (closers b t) ∧
      ∀ i ∈ openers b t, ∀ j ∈ openers b t, i < j →
        partner i < j ∨ partner j < partner i := by
  have count : balancedFrom b none 0 t = true := List.all_eq_true.mp balanced b (mem_all b)
  choose! partner pairs using fun i (h : i ∈ openers b t) => exists_pairs_of_opener count h
  refine ⟨partner, ?_, ⟨?_, ?_, ?_⟩, ?_⟩
  · intro i h
    exact ⟨(findMatching_eq_some_iff h).mpr (pairs i h), (pairs i h).ahead⟩
  · intro i h
    exact (pairs i h).closes
  · intro i h j h' same
    have first := pairs i h
    rw [same] at first
    exact first.injective (pairs j h')
  · intro j h
    obtain ⟨i, pair⟩ := exists_pairs_of_closer count h
    have found := (findMatching_eq_some_iff pair.opens).mpr pair
    have known := (findMatching_eq_some_iff pair.opens).mpr (pairs i pair.opens)
    rw [found] at known
    cases known
    exact ⟨i, pair.opens, rfl⟩
  · intro i h j h' before
    exact (pairs i h).nested (pairs j h') before

theorem findMatching_pairing_crossing :
    let t : Text := "f<a(<b->c)>[d>]"
    isBalanced t = true ∧ ∃ partner : Nat → Nat,
      (∀ i ∈ openers .angle t, findMatching t i = .ok (some (partner i)) ∧ i < partner i) ∧
      Set.BijOn partner (openers .angle t) (closers .angle t) ∧
      (∀ i ∈ openers .angle t, ∀ j ∈ openers .angle t, i < j →
        partner i < j ∨ partner j < partner i) ∧
      partner 1 = 13 ∧ partner 4 = 10 := by
  intro t
  have balanced : isBalanced t = true := by decide +kernel
  obtain ⟨partner, found, onto, nested⟩ := findMatching_pairing balanced .angle
  have outer : findMatching t 1 = .ok (some 13) := by decide +kernel
  have inner : findMatching t 4 = .ok (some 10) := by decide +kernel
  rw [(found 1 rfl).1, Except.ok.injEq, Option.some.injEq] at outer
  rw [(found 4 rfl).1, Except.ok.injEq, Option.some.injEq] at inner
  exact ⟨balanced, partner, found, onto, nested, outer, inner⟩

end ViewCases.Bracket
