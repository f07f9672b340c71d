import ViewCases.Proofs.Bracket.Segments

/-! Scans that go on. What a scan has counted at the end of a text is all that the text
behind it depends on, also where brackets are closed that were never opened. A closed text
leaves every count as it was. -/
namespace ViewCases.Bracket
open Text

theorem partnerFrom_shift (b : Bracket) (prev : Option Char) (n p q : Nat) (t : Text) :
    partnerFrom b prev n (p + q) t = (partnerFrom b prev n q t).map (p + ·) := by
  induction t generalizing prev n q with
  | nil => rfl
  | cons c cs ih =>
    rw [partnerFrom, partnerFrom, Nat.add_assoc]
    split
    · exact ih _ _ _
    · split
      · split
        · rfl
        · exact ih _ _ _
      · exact ih _ _ _

theorem partnerFrom_none_append {b : Bracket} {prev : Option Char} {n pos : Nat} {t : Text}
    (h : partnerFrom b prev n pos t = none) : ∃ k, (1 ≤ n → 1 ≤ k) ∧ ∀ x,
      partnerFrom b prev n pos (t ++ x) = partnerFrom b (lastOf prev t) k (pos + t.length) x := by
  induction t generalizing prev n pos with
  | nil => exact ⟨n, id, fun x => rfl⟩
  | cons c cs ih =>
    have further : ∀ m, (1 ≤ n → 1 ≤ m) → partnerFrom b (some c) m (pos + 1) cs = none →
        (∀ x, partnerFrom b prev n pos (c :: cs ++ x) =
          partnerFrom b (some c) m (pos + 1) (cs ++ x)) →
        ∃ k, (1 ≤ n → 1 ≤ k) ∧ ∀ x, partnerFrom b prev n pos (c :: cs ++ x) =
          partnerFrom b (lastOf prev (c :: cs)) k (pos + (c :: cs).length) x := by
      intro m kept open_ step
      obtain ⟨k, more, rest⟩ := ih open_
      refine ⟨k, fun one => more (kept one), fun x => ?_⟩
      rw [step, rest, lastOf, List.length_cons, Nat.add_right_comm, Nat.add_assoc]
    rw [partnerFrom] at h
    split at h
    · next opens =>
      refine further (n + 1) (fun _ => by omega) h fun x => ?_
      rw [List.cons_append, partnerFrom, if_pos opens]
    · next other =>
      split at h
      · next shut =>
        split at h
        · cases h
        · next last =>
          refine further (n - 1) (fun _ => by omega) h fun x => ?_
          rw [List.cons_append, partnerFrom, if_neg other, if_pos shut, if_neg last]
      · next plain =>
        refine further n id h fun x => ?_
        rw [List.cons_append, partnerFrom, if_neg other, if_neg plain]

theorem partnerFrom_balanced {b : Bracket} {prev : Option Char} {d k : Nat} {t : Text}
    (h : balancedFrom b prev d t = true) (hk : 1 ≤ k) (pos : Nat) (x : Text) :
    partnerFrom b prev (k + d) pos (t ++ x) =
      partnerFrom b (lastOf prev t) k (pos + t.length) x := by
  induction t generalizing prev d pos with
  | nil =>
    have zero : d = 0 := by simpa [balancedFrom] using h
    rw [zero]
    rfl
  | cons c cs ih =>
    have len : pos + (c :: cs).length = pos + 1 + cs.length := by simp; omega
    simp only [balancedFrom] at h
    rw [List.cons_append, partnerFrom, lastOf, len]
    split at h
    · next opens =>
      rw [if_pos opens]
      exact ih h (pos + 1)
    · next other =>
      rw [if_neg other]
      split at h
      · next shut =>
        rw [if_pos shut]
        cases d with
        | zero => cases h
        | succ d =>
          have notLast : k + (d + 1) ≠ 1 := by omega
          rw [if_neg notLast]
          exact ih h (pos + 1)
      · next plain =>
        rw [if_neg plain]
        exact ih h (pos + 1)

theorem balancedFrom_behind {b : Bracket} {prev : Option Char} {depth : Nat} {x y : Text}
    (h : balancedFrom b prev depth (x ++ y) = true) :
    ∃ prev depth, balancedFrom b prev depth y = true := by
  induction x generalizing prev depth with
  | nil => exact ⟨prev, depth, h⟩
  | cons c cs ih =>
    simp only [List.cons_append, balancedFrom] at h
    split at h
    · exact ih h
    · split at h
      · cases depth with
        | zero => cases h
        | succ depth => exact ih h
      · exact ih h

theorem exists_partnerFrom {b : Bracket} {prev : Option Char} {d k : Nat} {t : Text}
    (h : balancedFrom b prev (d + k) t = true) (hk : 1 ≤ k) (pos : Nat) :
    ∃ i, partnerFrom b prev k pos t = some i := by
  induction t generalizing prev k pos with
  | nil =>
    have zero : d + k = 0 := by simpa [balancedFrom] using h
    omega
  | cons c cs ih =>
    simp only [balancedFrom] at h
    rw [partnerFrom]
    split at h
    · next opens =>
      rw [if_pos opens]
      exact ih h (Nat.le_add_left 1 k) (pos + 1)
    · next other =>
      rw [if_neg other]
      split at h
      · next shut =>
        rw [if_pos shut]
        by_cases last : k = 1
        · exact ⟨pos, if_pos last⟩
        · have open_ : d + k = d + (k - 1) + 1 := by omega
          rw [open_] at h
          rw [if_neg last]
          exact ih h (by omega) (pos + 1)
      · next plain =>
        rw [if_neg plain]
        exact ih h hk (pos + 1)

theorem exists_partner {b : Bracket} {front t : Text}
    (h : balancedFrom b none 0 (front ++ b.opener :: t) = true) :
    ∃ i, partner? b (b.opener :: t) = some i := by
  obtain ⟨prev, d, rest⟩ := balancedFrom_behind h
  have inside : balancedFrom b (some b.opener) (d + 1) t = true := by
    simpa [balancedFrom] using rest
  obtain ⟨i, partner⟩ := exists_partnerFrom inside (Nat.le_refl 1) 1
  exact ⟨i, by simpa [partner?, partnerFrom] using partner⟩

theorem balancedFrom_behind_partner {b : Bracket} {prev : Option Char} {d k pos i : Nat}
    {t : Text} (h : balancedFrom b prev (d + k) t = true) (hk : 1 ≤ k)
    (partner : partnerFrom b prev k pos t = some i) :
    balancedFrom b (some b.closer) d (t.drop (i - pos + 1)) = true := by
  induction t generalizing prev k pos with
  | nil => cases partner
  | cons c cs ih =>
    have further : ∀ {m}, 1 ≤ m → balancedFrom b (some c) (d + m) cs = true →
        partnerFrom b (some c) m (pos + 1) cs = some i →
        balancedFrom b (some b.closer) d ((c :: cs).drop (i - pos + 1)) = true := by
      intro m hm rest found
      have place := (partnerFrom_lt found).1
      have shift : i - pos + 1 = (i - (pos + 1) + 1) + 1 := by omega
      rw [shift, List.drop_succ_cons]
      exact ih rest hm found
    simp only [balancedFrom] at h
    rw [partnerFrom] at partner
    split at h
    · next opens =>
      rw [if_pos opens] at partner
      exact further (Nat.le_add_left 1 k) h partner
    · next other =>
      rw [if_neg other] at partner
      split at h
      · next shut =>
        rw [if_pos shut] at partner
        have open_ : d + k = d + (k - 1) + 1 := by omega
        rw [open_] at h
        by_cases last : k = 1
        · rw [if_pos last] at partner
          cases partner
          simp only [closes, Bool.and_eq_true, beq_iff_eq] at shut
          rw [Nat.sub_self, Nat.zero_add, List.drop_one, List.tail_cons, ← shut.1]
          simpa [last] using h
        · rw [if_neg last] at partner
          exact further (by omega) h partner
      · next plain =>
        rw [if_neg plain] at partner
        exact further hk h partner

/-- The character before a text matters to the head of an arrow only. -/
theorem balancedFrom_eq_none {b : Bracket} {prev : Option Char} (h : prev ≠ some '-') (d : Nat)
    (t : Text) : balancedFrom b prev d t = balancedFrom b none d t := by
  cases t with
  | nil => rfl
  | cons c cs =>
    have head : closes b prev c = closes b none c := by simp [closes, arrowHead, h]
    simp only [balancedFrom, head]

theorem findFrom_shift (token : Text) (second : Bool) (prev : Option Char) (d p q : Nat)
    (t : Text) :
    findFrom token second prev d (p + q) t = (findFrom token second prev d q t).map (p + ·) := by
  induction t generalizing second prev d q with
  | nil => rfl
  | cons c cs ih =>
    rw [findFrom, findFrom, Nat.add_assoc]
    split
    · exact ih _ _ _ _
    · split
      · split
        · exact ih _ _ _ _
        · split
          · exact ih _ _ _ _
          · rfl
      · split
        · exact ih _ _ _ _
        · split
          · exact ih _ _ _ _
          · exact ih _ _ _ _

def depthAfter (prev : Option Char) (depth : Nat) : Text → Nat
  | [] => depth
  | c :: cs => depthAfter (some c)
      (if isOpener c then depth + 1
        else if isCloser c && !arrowHead prev c then depth - 1 else depth) cs

section
variable {x : Char} {second : Bool} {prev : Option Char} {d pos : Nat}

/-- One step of the search for a character that is no bracket. It ends at the character,
unless that is an equals sign of a comparison; otherwise the search goes on behind it. -/
theorem findFrom_cons (plain : isOpener x = false ∧ isCloser x = false) (c : Char) (cs : Text)
    (half : second = true → c = '=') :
    findFrom [x] second prev d pos (c :: cs) =
      if second = false ∧ d = 0 ∧ c = x ∧
          ¬(x = '=' ∧ (cs.head? = some '=' ∨ comparisonLead prev = true)) then some pos
      else findFrom [x] (second = false ∧ d = 0 ∧ c = x ∧ x = '=' ∧ cs.head? = some '=')
        (some c) (depthAfter prev d [c]) (pos + 1) cs := by
  cases second with
  | true =>
    cases half rfl
    simp [findFrom, depthAfter, isOpener, isCloser, all, opener, closer]
  | false =>
    by_cases here : d = 0 ∧ c = x
    · obtain ⟨rfl, rfl⟩ := here
      by_cases equals : c = '='
      · subst equals
        by_cases double : cs.head? = some '='
        · simp [findFrom, depthAfter, plain, double, List.isPrefixOf]
        · by_cases comparison : comparisonLead prev = true
          · simp [findFrom, depthAfter, plain, double, comparison, List.isPrefixOf]
          · simp [findFrom, double, comparison, List.isPrefixOf]
      · simp [findFrom, equals, List.isPrefixOf]
    · have absent : ¬(d = 0 ∧ List.isPrefixOf [x] (c :: cs) = true) := by
        rintro ⟨zero, found⟩
        simp only [List.isPrefixOf, Bool.and_true, beq_iff_eq] at found
        exact here ⟨zero, found.symm⟩
      have notHere : ∀ q : Prop, ¬(d = 0 ∧ c = x ∧ q) := fun q h => here ⟨h.1, h.2.1⟩
      rw [findFrom]
      simp only [Bool.false_eq_true, if_false, if_neg absent, notHere, and_false, decide_false,
        depthAfter]
      split
      · rfl
      · split <;> rfl

theorem findFrom_resumed (plain : isOpener x = false ∧ isCloser x = false) {t : Text}
    (half : second = true → t.head? = some '=') {y : Text} (apart : y.head? ≠ some '=') :
    findFrom [x] second prev d pos (t ++ y) =
      (findFrom [x] second prev d pos t).or
        (findFrom [x] false (lastOf prev t) (depthAfter prev d t) (pos + t.length) y) := by
  induction t generalizing second prev d pos with
  | nil =>
    cases second with
    | true => cases half rfl
    | false => rfl
  | cons c cs ih =>
    have double : (cs ++ y).head? = some '=' ↔ cs.head? = some '=' := by
      cases cs with
      | nil => simpa using apart
      | cons e es => rfl
    have half : second = true → c = '=' := by simpa using half
    have len : pos + (c :: cs).length = pos + 1 + cs.length := by simp; omega
    rw [List.cons_append, findFrom_cons plain c _ half, findFrom_cons plain c cs half, len, lastOf]
    simp only [double]
    split
    · rfl
    · rw [ih]
      · rfl
      · intro both
        exact (of_decide_eq_true both).2.2.2.2

end

theorem findFrom_closed (token : Text) {prev : Option Char} {d : Nat} {z : Text}
    (h : Closed (marksFrom prev z)) (inside : 1 ≤ d) (pos : Nat) (y : Text) :
    findFrom token false prev d pos (z ++ y) =
      findFrom token false (lastOf prev z) d (pos + z.length) y := by
  let nest : Nest := fun b => if b = .paren then d else 0
  have total : nest.total = d := by simp [nest, Nest.total]
  have deep : nest ≠ .flat := by
    rintro eq
    rw [eq] at total
    simp [Nest.total, Nest.flat] at total
    omega
  have pass := findFrom_append (h.walk nest) (misses_inside deep h token y) pos
  rwa [total] at pass

def levelsAfter (prev : Option Char) (l : Levels) : Text → Levels
  | [] => l
  | c :: cs => levelsAfter (some c) (l.step prev c) cs

theorem segments_resumed (prev : Option Char) (l : Levels) (t : Text) :
    ∃ done last, segments prev l t = done ++ [last] ∧ ∀ x, segments prev l (t ++ x) =
      done ++ prepend last (segments (lastOf prev t) (levelsAfter prev l t) x) := by
  induction t generalizing prev l with
  | nil =>
    refine ⟨[], [], rfl, fun x => ?_⟩
    cases eq : segments prev l x with
    | nil => exact absurd eq (segments_ne_nil _ _ _)
    | cons s ss => simp [lastOf, levelsAfter, eq, prepend]
  | cons c cs ih =>
    cases cut : cuts prev l c with
    | true =>
      have level : l.step prev c = l := by
        simp only [cuts, Bool.and_eq_true, Bool.not_eq_true'] at cut
        exact Levels.step_of_not_bracket l cut.1.1
      obtain ⟨done, last, eq, onward⟩ := ih (some c) l
      refine ⟨[] :: done, last, ?_, fun x => ?_⟩
      · rw [segments_of_cuts cut, eq]
        rfl
      · rw [List.cons_append, segments_of_cuts cut, onward, lastOf, levelsAfter, level]
        rfl
    | false =>
      obtain ⟨done, last, eq, onward⟩ := ih (some c) (l.step prev c)
      cases done with
      | nil =>
        refine ⟨[], c :: last, ?_, fun x => ?_⟩
        · rw [segments_of_not_cuts cut, eq]
          rfl
        · rw [List.cons_append, segments_of_not_cuts cut, onward, List.nil_append,
            prepend_prepend [c] last (segments_ne_nil _ _ _), lastOf, levelsAfter]
          rfl
      | cons d ds =>
        refine ⟨(c :: d) :: ds, last, ?_, fun x => ?_⟩
        · rw [segments_of_not_cuts cut, eq]
          rfl
        · rw [List.cons_append, segments_of_not_cuts cut, onward, lastOf, levelsAfter]
          rfl

theorem levelsAfter_eq_along (prev : Option Char) (l : Levels) (t : Text) :
    levelsAfter prev l t = l.along (marksFrom prev t) := by
  induction t generalizing prev l with
  | nil => rfl
  | cons c cs ih => rw [levelsAfter, ih, along_cons]

theorem levelsAfter_closed {prev : Option Char} {z : Text} (h : Closed (marksFrom prev z))
    (l : Levels) : levelsAfter prev l z = l := by
  rw [levelsAfter_eq_along, h.along]

end ViewCases.Bracket
