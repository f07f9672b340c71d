import Mathlib.Data.List.Basic
import ViewCases.Text.Blank

/-! Trimming. A text is white space, then a trimmed text, then white space, and the
trimmed text is all that `strip` keeps. -/
namespace ViewCases.Text

/-- What holds of a text's characters is decided along the text. Without this the instance
that runs over all characters may be found first. -/
instance {p : Char → Prop} [DecidablePred p] (t : Text) : Decidable (∀ c ∈ t, p c) :=
  List.decidableBAll p t

def Trimmed (t : Text) : Prop :=
  (∀ c, t.head? = some c → isBlank c = false) ∧ (∀ c, t.getLast? = some c → isBlank c = false)

def Blank (t : Text) : Prop := ∀ c ∈ t, isBlank c = true

instance : DecidablePred Blank := fun t => inferInstanceAs (Decidable (∀ c ∈ t, isBlank c = true))

theorem stripStart_append {l : Text} (h : Blank l) (t : Text) :
    stripStart (l ++ t) = stripStart t := by
  induction l with
  | nil => rfl
  | cons c l ih =>
    obtain ⟨hc, later⟩ := List.forall_mem_cons.mp h
    have ih := ih later
    simpa [stripStart, hc] using ih

theorem head_stripStart (t : Text) : ∀ c, (stripStart t).head? = some c → isBlank c = false := by
  intro c h
  obtain ⟨rest, eq⟩ := List.head?_eq_some_iff.mp h
  exact head_stripStart_not_blank eq

theorem stripStart_of_head {t : Text} (h : ∀ c, t.head? = some c → isBlank c = false) :
    stripStart t = t := by
  cases t with
  | nil => rfl
  | cons c t =>
    have := h c rfl
    simp [stripStart, this]

theorem stripEnd_append {r : Text} (h : Blank r) (t : Text) :
    stripEnd (t ++ r) = stripEnd t := by
  have reversed : Blank r.reverse := fun c hc => h c (List.mem_reverse.mp hc)
  have := stripStart_append reversed t.reverse
  simp only [stripStart] at this
  simp [stripEnd, this]

theorem stripEnd_of_last {t : Text} (h : ∀ c, t.getLast? = some c → isBlank c = false) :
    stripEnd t = t := by
  have := stripStart_of_head (t := t.reverse) (by simpa using h)
  simp only [stripStart] at this
  simp [stripEnd, this]

theorem stripStart_decompose (t : Text) : ∃ l, Blank l ∧ t = l ++ stripStart t :=
  ⟨t.takeWhile isBlank, fun _ h => List.all_eq_true.mp List.all_takeWhile _ h,
    List.takeWhile_append_dropWhile.symm⟩

theorem stripEnd_decompose (t : Text) : ∃ r, Blank r ∧ t = stripEnd t ++ r := by
  obtain ⟨l, blank, eq⟩ := stripStart_decompose t.reverse
  refine ⟨l.reverse, fun c hc => blank c (List.mem_reverse.mp hc), ?_⟩
  simpa [stripStart, stripEnd] using congrArg List.reverse eq

theorem strip_of_trimmed {t : Text} (h : Trimmed t) : strip t = t := by
  rw [strip, stripStart_of_head h.1, stripEnd_of_last h.2]

theorem strip_append_left {l : Text} (h : Blank l) (t : Text) : strip (l ++ t) = strip t := by
  rw [strip, strip, stripStart_append h]

theorem strip_of_blank {t : Text} (h : Blank t) : strip t = [] := by
  have := strip_append_left h []
  rwa [List.append_nil] at this

theorem stripEnd_head {t : Text} {c : Char} (h : (stripEnd t).head? = some c) :
    t.head? = some c := by
  obtain ⟨r, _, eq⟩ := stripEnd_decompose t
  rw [eq, List.head?_append, h]
  rfl

theorem stripEnd_last {t : Text} {c : Char} (h : (stripEnd t).getLast? = some c) :
    isBlank c = false := by
  apply head_stripStart t.reverse
  simpa [stripEnd, stripStart] using h

theorem trimmed_strip (t : Text) : Trimmed (strip t) := by
  constructor
  · intro c h
    exact head_stripStart t c (stripEnd_head h)
  · intro c h
    exact stripEnd_last h

theorem trimmed_iff {t : Text} : Trimmed t ↔ strip t = t :=
  ⟨strip_of_trimmed, fun h => h ▸ trimmed_strip t⟩

instance : DecidablePred Trimmed := fun _ => decidable_of_iff' _ trimmed_iff

theorem strip_decompose (t : Text) : ∃ l r, Blank l ∧ Blank r ∧ t = l ++ strip t ++ r := by
  obtain ⟨l, hl, eql⟩ := stripStart_decompose t
  obtain ⟨r, hr, eqr⟩ := stripEnd_decompose (stripStart t)
  refine ⟨l, r, hl, hr, ?_⟩
  rw [List.append_assoc, strip, ← eqr]
  exact eql

theorem strip_append_right {r : Text} (h : Blank r) (t : Text) : strip (t ++ r) = strip t := by
  obtain ⟨l, hl, eq⟩ := stripStart_decompose t
  by_cases empty : stripStart t = []
  · have blank : Blank t := by
      rw [eq, empty, List.append_nil]
      exact hl
    have both : Blank (t ++ r) := fun c hc => (List.mem_append.mp hc).elim (blank c) (h c)
    rw [strip_of_blank blank, strip_of_blank both]
  · rw [eq, List.append_assoc, strip_append_left hl, strip_append_left hl]
    have head : ∀ c, (stripStart t ++ r).head? = some c → isBlank c = false := by
      rw [List.head?_append_of_ne_nil _ empty]
      exact head_stripStart t
    rw [strip, strip, stripStart_of_head head, stripStart_of_head (head_stripStart t),
      stripEnd_append h]

theorem blank_of_strip {t : Text} (h : strip t = []) : Blank t := by
  obtain ⟨l, r, hl, hr, eq⟩ := strip_decompose t
  rw [eq, h, List.append_nil]
  exact fun c hc => (List.mem_append.mp hc).elim (hl c) (hr c)

theorem all_isBlank_iff {t : Text} : t.all isBlank = true ↔ strip t = [] := by
  rw [List.all_eq_true]
  exact ⟨strip_of_blank, blank_of_strip⟩

theorem strip_surround {l r t : Text} (hl : Blank l) (ht : Trimmed t) (hr : Blank r) :
    strip (l ++ t ++ r) = t := by
  rw [strip_append_right hr, strip_append_left hl, strip_of_trimmed ht]

theorem blank_space : Blank [' '] := by
  intro c hc
  cases List.mem_singleton.mp hc
  rfl

theorem trimmed_of_ends {a b : Text} (na : a ≠ []) (nb : b ≠ [])
    (head : ∀ c, a.head? = some c → isBlank c = false)
    (last : ∀ c, b.getLast? = some c → isBlank c = false) : Trimmed (a ++ b) := by
  constructor
  · intro c hc
    apply head c
    rwa [List.head?_append_of_ne_nil _ na] at hc
  · intro c hc
    apply last c
    rwa [List.getLast?_append_of_ne_nil _ nb] at hc

theorem trimmed_append {a b : Text} (ha : Trimmed a) (hb : Trimmed b) (na : a ≠ [])
    (nb : b ≠ []) : Trimmed (a ++ b) :=
  trimmed_of_ends na nb ha.1 hb.2

theorem stripEnd_append_of_last {t : Text} (h : ∀ c, t.getLast? = some c → isBlank c = false)
    (x : Text) : stripEnd (t ++ x) = t ++ stripEnd x := by
  obtain ⟨r, blank, eq⟩ := stripEnd_decompose x
  have last : ∀ c, (t ++ stripEnd x).getLast? = some c → isBlank c = false := by
    intro c hc
    by_cases empty : stripEnd x = []
    · rw [empty, List.append_nil] at hc
      exact h c hc
    · rw [List.getLast?_append_of_ne_nil t empty] at hc
      exact stripEnd_last hc
  conv_lhs => rw [eq]
  rw [← List.append_assoc, stripEnd_append blank, stripEnd_of_last last]

theorem strip_append_trimmed {t : Text} (h : Trimmed t) (ne : t ≠ []) (x : Text) :
    strip (t ++ x) = t ++ stripEnd x := by
  have head : ∀ c, (t ++ x).head? = some c → isBlank c = false := by
    rw [List.head?_append_of_ne_nil t ne]
    exact h.1
  rw [strip, stripStart_of_head head, stripEnd_append_of_last h.2]

end ViewCases.Text
