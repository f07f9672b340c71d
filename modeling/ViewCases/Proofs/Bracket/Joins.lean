import ViewCases.Proofs.Bracket.Segments

/-! The split at commas and the join of what it yields, for any text: brackets may be left open or
closed too often, so levels may be negative. Where a text is cut depends on its marks alone.
Trimming keeps the marks, and so the join of trimmed parts is cut where the text was. -/
namespace ViewCases.Bracket
open Text

/-- The text without its white space. -/
def dense (t : Text) : Text := t.filter fun c => !isBlank c

theorem dense_append (a b : Text) : dense (a ++ b) = dense a ++ dense b :=
  List.filter_append a b

theorem dense_eq_nil_iff {t : Text} : dense t = [] ↔ t.all isBlank = true := by
  simp [dense]

theorem dense_strip (t : Text) : dense (strip t) = dense t := by
  obtain ⟨l, r, left, right, eq⟩ := strip_decompose t
  have whole := congrArg dense eq
  rw [dense_append, dense_append, dense_eq_nil_iff.mpr (List.all_eq_true.mpr left),
    dense_eq_nil_iff.mpr (List.all_eq_true.mpr right), List.append_nil] at whole
  exact whole.symm

theorem dense_joinWith (sep : Text) (us : List Text) :
    dense (joinWith sep us) = joinWith (dense sep) (us.map dense) := by
  induction us with
  | nil => rfl
  | cons u us ih =>
    cases us with
    | nil => rfl
    | cons v us =>
      rw [joinWith_cons_cons, dense_append, dense_append, ih]
      rfl

theorem joinWith_segments (prev : Option Char) (l : Levels) (t : Text) :
    joinWith [','] (segments prev l t) = t := by
  have joined := joined_segments prev l t
  generalize segments prev l t = us at joined
  induction joined with
  | one u => rfl
  | more u behind ih =>
    cases behind with
    | one v => simp [joinWith]
    | more v behind =>
      rw [joinWith_cons_cons, ih, List.append_assoc]
      rfl

theorem splitTopLevel_of_visible {t : Text} (h : dense t ≠ []) :
    splitTopLevel t = (segments none {} t).map strip := by
  rw [splitTopLevel, splitTopLevelBy, if_neg (mt dense_eq_nil_iff.mpr h)]
  rfl

theorem dense_join_splitTopLevel {sep : Text} (comma : dense sep = [',']) (t : Text) :
    dense (joinWith sep (splitTopLevel t)) = dense t := by
  by_cases blank : dense t = []
  · have none : splitTopLevel t = [] := if_pos (dense_eq_nil_iff.mp blank)
    rw [none, blank]
    rfl
  · have same : (dense ∘ strip) = dense := funext dense_strip
    have whole := congrArg dense (joinWith_segments none {} t)
    rw [dense_joinWith] at whole
    rw [splitTopLevel_of_visible blank, dense_joinWith, List.map_map, same, comma]
    exact whole

theorem splitTopLevel_join_splitTopLevel (t : Text) :
    splitTopLevel (joinWith [',', ' '] (splitTopLevel t)) = splitTopLevel t := by
  by_cases blank : dense t = []
  · have none : splitTopLevel t = [] := if_pos (dense_eq_nil_iff.mp blank)
    rw [none]
    rfl
  · have visible : dense (joinWith [',', ' '] (splitTopLevel t)) ≠ [] := by
      rw [dense_join_splitTopLevel (by decide)]
      exact blank
    have start : (none : Option Char) ≠ some '-' := by simp
    have parted := parted_segments start {} t
    rw [splitTopLevel_of_visible visible, splitTopLevel_of_visible blank]
    cases parts : segments none {} t with
    | nil => exact absurd parts (segments_ne_nil _ _ _)
    | cons u us =>
      rw [parts] at parted
      have spaced : ∀ v : Text, marks (' ' :: strip v) = marks v := fun v =>
        (marks_cons (by decide) _).trans (marks_strip v)
      have trim : ∀ v : Text, strip (' ' :: strip v) = strip v := fun v =>
        (strip_append_left blank_space _).trans (strip_of_trimmed (trimmed_strip v))
      have kept : Parted {} ((strip u :: us.map (' ' :: strip ·)).map marks) := by
        simpa [marks_strip, spaced, Function.comp_def] using parted
      have again := segments_of_parted start kept
      rw [List.map_cons, joinWith_space, List.map_map]
      refine (congrArg (List.map strip) again).trans ?_
      simp [trim, strip_of_trimmed (trimmed_strip u)]

/-- Split and join are inverse to each other. Balanced texts that a split leaves whole come back
from the split of their join; so do the parts of any text, and with commas between them they are
the text but for white space. -/
theorem splitTopLevel_joins {us : List Text} (atoms : ∀ u ∈ us, Atom u) (t : Text) :
    splitTopLevel (joinWith ", " us) = us ∧
    splitTopLevel (joinWith ", " (splitTopLevel t)) = splitTopLevel t ∧
    dense (joinWith "," (splitTopLevel t)) = dense t := by
  refine ⟨splitTopLevel_join fun u mem => atom_iff_segment.mp (atoms u mem), ?_, ?_⟩
  · exact splitTopLevel_join_splitTopLevel t
  · exact dense_join_splitTopLevel (by decide) t

theorem splitTopLevel_joins_unbalanced :
    let us : List Text := ["Map<K, V>", "(a, b) -> c"]
    let t : Text := " )a, b( ,\t,c\u00a0d, -> [,e"
    (∀ u ∈ us, Atom u) ∧ isBalanced t = false ∧
      splitTopLevel t = ([")a, b(", "", "c\u00a0d", "-> [,e"] : List Text) ∧
      splitTopLevel (joinWith ", " us) = us ∧
      splitTopLevel (joinWith ", " (splitTopLevel t)) = splitTopLevel t ∧
      dense (joinWith "," (splitTopLevel t)) = dense t := by
  intro us t
  have atoms : ∀ u ∈ us, Atom u := by decide +kernel
  exact ⟨atoms, by decide +kernel, by decide +kernel, splitTopLevel_joins atoms t⟩

end ViewCases.Bracket
